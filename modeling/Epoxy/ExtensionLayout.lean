/-
The layout of extension packets between the sender, the decoder and the
handlers.  The decoder takes the kind and the stream off a packet before it
calls a handler; the handlers of both extensions read a stream number from
what is left.
-/
import Epoxy.ActorLoop
import Epoxy.Wispnet
import Epoxy.WriteAfterClose

namespace Epoxy

open ByteCursor PollChannel

def ReadStream.receiving {E : Type} (extensions : List E) (message : Bytes) :
    ReadStream E :=
  ⟨[.ok message], false, extensions, true, []⟩

/-- The resize packet of a stream as the document describes it. -/
def resizePacket (streamId : UInt32) (rows columns : UInt16) : Bytes :=
  extensionPacket 0xF0 streamId (putU16Le rows ++ putU16Le columns)

def probePacket : Bytes := extensionPacket 0xF1 0 []

theorem sent_resize (info : StreamInfo) (rows columns : UInt16)
    {answer : SendAnswer} (htaken : answer.taken = true) :
    (MuxProtocolExtensionStream.send info false 0xF0
      (putU16Le rows ++ putU16Le columns) answer).2 =
        [resizePacket info.id rows columns] := by
  simp [MuxProtocolExtensionStream.send, htaken, resizePacket]

def ResizeApplied (extension : TWispServerProtocolExtension)
    (streamId : UInt32) (rows columns : UInt16) : Prop :=
  ∃ left : ReadStream TWispServerProtocolExtension,
    (ReadStream.receiving [extension]
      (resizePacket streamId rows columns)).nextEvent =
        (left, .ready (.ok none)) ∧
    left.extensions = [extension.setTermSize streamId rows columns]

open Server (WispnetServers)

/-- The numbers of the public servers, each of them once. -/
def ListsPublic (servers : WispnetServers) (ids : List UInt32) : Prop :=
  ids.Nodup ∧ ∀ id, id ∈ ids ↔
    ∃ client, servers.lookup id = some client ∧ client.isPrivate = false

def ProbeAnswered (extension : Server.WispnetResponder) : Prop :=
  ∃ (left : ReadStream Server.WispnetResponder)
    (ids : List UInt32),
    (ReadStream.receiving [extension] probePacket).nextEvent =
      (left, .ready (.ok none)) ∧
    left.sent = [[0xF1] ++ putU32Le 0 ++ ids.flatMap putU32Le] ∧
    ListsPublic extension.servers ids

/-- What the decoder hands to the only extension, which supports the packet,
is the data alone. -/
theorem nextEvent_of_extensionPacket {E : Type} [ProtocolExtension E]
    [PacketHandler E] {extension : E} {ty : UInt8} (streamId : UInt32)
    (data : Bytes) (hty : 0x04 < ty)
    (hsupported : (ProtocolExtension.getSupportedPackets extension).contains
      ty = true) :
    (ReadStream.receiving [extension]
        (extensionPacket ty streamId data)).nextEvent =
      (⟨(PacketHandler.handlePacket extension ty data []).incoming, false,
          [(PacketHandler.handlePacket extension ty data []).extension], true,
          (PacketHandler.handlePacket extension ty data []).sent⟩,
        .ready ((PacketHandler.handlePacket extension ty data []).result.map
          fun _ => none)) := by
  have hlength : ¬ (extensionPacket ty streamId data).length < 1 + 4 := by
    simp only [extensionPacket, List.length_append, List.length_cons,
      List.length_nil, length_putU32Le]
    omega
  have hother : ¬ (0x01 ≤ ty ∧ ty ≤ 0x04) := fun h =>
    absurd h.2 (UInt8.not_le.mpr hty)
  have hid : (getU32Le (putU32Le streamId ++ data) :
      Outcome WispError (UInt32 × Bytes)) = .ok (streamId, data) :=
    getU32Le_putU32Le streamId data
  have hdecode : MaybeExtensionPacket.decode
      (extensionPacket ty streamId data) [extension] =
        .ok (.handle [] extension [] ty data) := by
    rw [MaybeExtensionPacket.decode, if_neg hlength]
    simp only [extensionPacket, List.cons_append, List.nil_append, getU8,
      Outcome.bind_ok, hid, if_neg hother, MaybeExtensionPacket.findExtension,
      if_pos hsupported, Outcome.pure_eq_ok]
  simp [ReadStream.nextEvent, ReadStream.receiving, hdecode,
    ReadStream.handle]

section Resize

open TWispServerProtocolExtension (handlePacket)

variable (extension : TWispServerProtocolExtension)

theorem handlePacket_of_document (rows columns : UInt16) :
    handlePacket extension 0xF0 (putU16Le rows ++ putU16Le columns) [] =
      ⟨extension, [], [], .err .packetTooSmall⟩ := by
  simp [handlePacket, TWispServerProtocolExtension.readResize]

/-- The layout the handler expects has a stream number of its own, and this
one counts. -/
theorem handlePacket_of_repeated_id (streamId : UInt32)
    (rows columns : UInt16) :
    handlePacket extension 0xF0
        (putU32Le streamId ++ (putU16Le rows ++ putU16Le columns)) [] =
      ⟨extension.setTermSize streamId rows columns, [], [], .ok ()⟩ := by
  have hid : ∀ rest, (getU32Le (putU32Le streamId ++ rest) :
      Outcome WispError (UInt32 × Bytes)) = .ok (streamId, rest) :=
    getU32Le_putU32Le streamId
  have hrows : ∀ rest, (getU16Le (putU16Le rows ++ rest) :
      Outcome WispError (UInt16 × Bytes)) = .ok (rows, rest) :=
    getU16Le_putU16Le rows
  have hcolumns : (getU16Le (putU16Le columns ++ []) :
      Outcome WispError (UInt16 × Bytes)) = .ok (columns, []) :=
    getU16Le_putU16Le columns []
  rw [List.append_nil] at hcolumns
  simp [handlePacket, TWispServerProtocolExtension.readResize, hid, hrows,
    hcolumns]

end Resize

namespace Server.WispnetResponder

def publicIds (servers : WispnetServers) : List UInt32 :=
  (servers.entries.filter fun client => !client.2.isPrivate).map (·.1)

theorem probeReply_eq (servers : WispnetServers) :
    probeReply servers =
      [0xF1] ++ putU32Le 0 ++ (publicIds servers).flatMap putU32Le := by
  unfold probeReply publicIds
  generalize [0xF1] ++ putU32Le 0 = out
  induction servers.entries generalizing out with
  | nil => simp
  | cons client rest ih =>
      rw [List.foldl_cons, ih]
      cases hprivate : client.2.isPrivate with
      | true => simp [hprivate]
      | false => simp [hprivate]

theorem listsPublic_publicIds (servers : WispnetServers) :
    ListsPublic servers (publicIds servers) := by
  constructor
  · have hkeys : (servers.entries.map (·.1)).Nodup := servers.nodupKeys
    exact hkeys.sublist (List.filter_sublist.map _)
  · intro id
    simp only [publicIds, List.mem_map, List.mem_filter, Bool.not_eq_true']
    constructor
    · rintro ⟨⟨id, client⟩, ⟨hmem, hpublic⟩, rfl⟩
      exact ⟨client, AList.mem_lookup_iff.mpr hmem, hpublic⟩
    · rintro ⟨client, hlookup, hpublic⟩
      exact ⟨⟨id, client⟩, ⟨AList.mem_lookup_iff.mp hlookup, hpublic⟩, rfl⟩

/-- Only a body that starts with a zero is answered. -/
theorem handlePacket_of_zero {extension : WispnetResponder}
    (haccepts : extension.accepts = .ok ()) :
    extension.handlePacket 0xF1 (putU32Le 0) [] =
      ⟨extension, [], [[0xF1] ++ putU32Le 0 ++
        (publicIds extension.servers).flatMap putU32Le], .ok ()⟩ := by
  have hid : (getU32Le (putU32Le 0) : Outcome WispError (UInt32 × Bytes)) =
      .ok (0, []) := rfl
  simp [handlePacket, hid, haccepts, probeReply_eq]

end Server.WispnetResponder

/-- Neither packet does what it is for, whatever is sent and whoever is
registered: both handlers refuse a body of the documented length. -/
theorem not_resizeApplied_and_not_probeAnswered
    (terminals : TWispServerProtocolExtension) (streamId : UInt32)
    (rows columns : UInt16)
    (servers : Server.WispnetResponder) :
    ¬ ResizeApplied terminals streamId rows columns ∧
      ¬ ProbeAnswered servers := by
  constructor
  · rintro ⟨left, hevent, -⟩
    rw [resizePacket, nextEvent_of_extensionPacket streamId _ (by decide) rfl]
      at hevent
    have hanswer := congrArg Prod.snd hevent
    change Poll.ready ((TWispServerProtocolExtension.handlePacket terminals
      0xF0 _ []).result.map fun _ => none) = _ at hanswer
    rw [handlePacket_of_document] at hanswer
    cases hanswer
  · rintro ⟨left, ids, hevent, -⟩
    rw [probePacket, nextEvent_of_extensionPacket 0 _ (by decide) rfl] at hevent
    cases congrArg Prod.snd hevent

/-- A resize of stream 1 to 24 rows and 80 columns, and a probe with one
public server registered. -/
theorem documented_packets_refused :
    ¬ ResizeApplied ⟨AList.singleton 1 5, []⟩ 1 24 80 ∧
      ¬ ProbeAnswered
        ⟨⟨0, false⟩, AList.singleton 7 ⟨"client", false⟩, .ok ()⟩ := by
  constructor
  · rintro ⟨left, hevent, -⟩
    cases congrArg Prod.snd hevent
  · rintro ⟨left, ids, hevent, -⟩
    cases congrArg Prod.snd hevent

end Epoxy
