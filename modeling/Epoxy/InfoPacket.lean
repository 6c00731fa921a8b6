/-
Protocol extensions and the packets that concern them.  The INFO packet is a
version and a row of extension entries, each an id, a length and a payload;
the builders on the receiving side consume the payloads one after another and
change state while they do.
-/
import Epoxy.Packet

namespace Epoxy

open ByteCursor

class ProtocolExtension (E : Type) where
  getId : E → UInt8
  getSupportedPackets : E → List UInt8
  getCongestionStreamTypes : E → List UInt8
  /-- An extension that does not fit its own format panics. -/
  encode : E → Outcome WispError Bytes

/-- A builder is changed by a build, also by one that fails. -/
class ProtocolExtensionBuilder (B : Type) (E : outParam Type) where
  getId : B → UInt8
  buildFromBytes : B → Bytes → Role → B × Outcome WispError E
  buildToExtension : B → Role → B × Outcome WispError E

/-- What a packet handler leaves: the extension, the transport messages it did
not read, what it sent, and its result. -/
structure HandlerResult (E : Type) where
  extension : E
  incoming : List (Except WispError Bytes)
  sent : List Bytes
  result : Outcome WispError Unit

/-- `handle_packet` of the extensions, which may read on from the transport. -/
class PacketHandler (E : Type) where
  handlePacket :
    E → UInt8 → Bytes → List (Except WispError Bytes) → HandlerResult E

open ProtocolExtension (getSupportedPackets)
open ProtocolExtensionBuilder (buildFromBytes buildToExtension)

variable {E B : Type}

/-- The first builder with this id, and what stands before and after it. -/
def findBuilder [ProtocolExtensionBuilder B E] (id : UInt8) :
    List B → Option (List B × B × List B)
  | [] => none
  | builder :: rest =>
      if ProtocolExtensionBuilder.getId builder = id then
        some ([], builder, rest)
      else
        (findBuilder id rest).map fun (before, found, after) =>
          (builder :: before, found, after)

theorem findBuilder_eq_some [ProtocolExtensionBuilder B E] {id : UInt8}
    {builders before after : List B} {found : B}
    (h : findBuilder id builders = some (before, found, after)) :
    builders = before ++ found :: after ∧
      ProtocolExtensionBuilder.getId found = id := by
  induction builders generalizing before found after with
  | nil => cases h
  | cons head tail ih =>
      rw [findBuilder] at h
      split at h
      · next hid =>
          cases h
          exact ⟨rfl, hid⟩
      · simp only [Option.map_eq_some_iff] at h
        obtain ⟨⟨front, middle, back⟩, hfind, heq⟩ := h
        cases heq
        obtain ⟨hsplit, hid⟩ := ih hfind
        exact ⟨by rw [hsplit]; rfl, hid⟩

/-- Append the entry of one extension: its id, the length of its payload cut
to 32 bits, and the payload. -/
def encodeInto [ProtocolExtension E] (extension : E) (packet : Bytes) :
    Outcome WispError Bytes := do
  let payload ← ProtocolExtension.encode extension
  pure (packet ++ [ProtocolExtension.getId extension] ++
    putU32Le (UInt32.ofNat payload.length) ++ payload)

structure InfoPacket (E : Type) where
  version : WispVersion
  extensions : List E
deriving Repr, DecidableEq

namespace InfoPacket

def encode [ProtocolExtension E] (info : InfoPacket E) :
    Outcome WispError Bytes :=
  info.extensions.foldlM (fun packet extension => encodeInto extension packet)
    ([0x05] ++ [0, 0, 0, 0] ++ [info.version.major, info.version.minor])

variable [ProtocolExtensionBuilder B E]

/-- The loop over the extension entries. -/
def decodeExtensions (role : Role) (builders : List B) (packet : Bytes) :
    Outcome WispError (List B × List E) :=
  if packet.length < 1 + 4 then pure (builders, [])
  else do
    let ⟨(id, packet), _hid⟩ ← (getU8 packet).attach
    let ⟨(length, packet), _hlength⟩ ← (getU32Le packet).attach
    if packet.length < length.toNat then .err .packetTooSmall
    else
      match findBuilder id builders with
      | some (before, builder, after) => do
          let ⟨(payload, packet), _hsplit⟩ ←
            (splitTo length.toNat packet).attach
          let (builder, built) := buildFromBytes builder payload role
          let extension ← built
          let (builders, extensions) ←
            decodeExtensions role (before ++ builder :: after) packet
          pure (builders, extension :: extensions)
      | none => do
          let ⟨packet, _hadvance⟩ ← (advance length.toNat packet).attach
          decodeExtensions role builders packet
termination_by packet.length
decreasing_by
  · have := length_of_getU8 _hid
    have := length_of_getU32Le _hlength
    have := length_of_splitTo _hsplit
    omega
  · have := length_of_getU8 _hid
    have := length_of_getU32Le _hlength
    have := length_of_advance _hadvance
    omega

/-- The first complete entry: its id, its payload and what follows it. -/
def nextEntry (packet : Bytes) : Option (UInt8 × Bytes × Bytes) :=
  match packet with
  | id :: b₀ :: b₁ :: b₂ :: b₃ :: rest =>
      let length := (u32Le b₀ b₁ b₂ b₃).toNat
      if length ≤ rest.length then
        some (id, rest.take length, rest.drop length)
      else none
  | _ => none

theorem length_of_nextEntry {packet payload rest : Bytes} {id : UInt8}
    (h : nextEntry packet = some (id, payload, rest)) :
    rest.length < packet.length := by
  unfold nextEntry at h
  split at h
  · dsimp only at h
    split at h
    · cases h
      simp
      omega
    · cases h
  · cases h

theorem decodeExtensions_of_lt {role : Role} {builders : List B}
    {packet : Bytes} (hlength : packet.length < 5) :
    decodeExtensions role builders packet = .ok (builders, []) := by
  rw [decodeExtensions, if_pos hlength]
  rfl

/-- The reads of one round never fail; a round is one complete entry or a
refusal. -/
theorem decodeExtensions_of_le {role : Role} {builders : List B}
    {packet : Bytes} (hlength : 5 ≤ packet.length) :
    decodeExtensions role builders packet =
      match nextEntry packet with
      | none => .err .packetTooSmall
      | some (id, payload, rest) =>
          match findBuilder id builders with
          | none => decodeExtensions role builders rest
          | some (before, builder, after) =>
              (buildFromBytes builder payload role).2 >>= fun extension =>
                (decodeExtensions role
                  (before ++ (buildFromBytes builder payload role).1 :: after)
                  rest) >>= fun next =>
                    .ok (next.1, extension :: next.2) := by
  match packet with
  | [] | [_] | [_, _] | [_, _, _] | [_, _, _, _] => simp at hlength
  | id :: b₀ :: b₁ :: b₂ :: b₃ :: rest =>
      have hid : (getU8 (id :: b₀ :: b₁ :: b₂ :: b₃ :: rest) :
          Outcome WispError (UInt8 × Bytes)) =
            .ok (id, b₀ :: b₁ :: b₂ :: b₃ :: rest) := rfl
      have hread : (getU32Le (b₀ :: b₁ :: b₂ :: b₃ :: rest) :
          Outcome WispError (UInt32 × Bytes)) =
            .ok (u32Le b₀ b₁ b₂ b₃, rest) := rfl
      rw [decodeExtensions, if_neg (Nat.not_lt.mpr hlength),
        Outcome.attach_of_eq_ok hid, Outcome.bind_ok]
      dsimp only
      rw [Outcome.attach_of_eq_ok hread, Outcome.bind_ok, nextEntry]
      dsimp only
      generalize (u32Le b₀ b₁ b₂ b₃).toNat = length
      by_cases hle : length ≤ rest.length
      · rw [if_neg (Nat.not_lt.mpr hle), if_pos hle]
        dsimp only
        cases findBuilder id builders with
        | none =>
            dsimp only
            rw [Outcome.attach_of_eq_ok (advance_of_le hle), Outcome.bind_ok]
        | some found =>
            dsimp only
            rw [Outcome.attach_of_eq_ok (splitTo_of_le hle), Outcome.bind_ok]
            simp only [Outcome.pure_eq_ok]
      · rw [if_pos (Nat.lt_of_not_le hle), if_neg hle]

/-- The packet and the builders as the decode left them; a failed decode
abandons them, as both handshakes do. -/
def decode (packet : Bytes) (builders : List B) (role : Role) :
    Outcome WispError (InfoPacket E × List B) :=
  if packet.length < 1 * 2 then .err .packetTooSmall
  else do
    let (major, packet) ← getU8 packet
    let (minor, packet) ← getU8 packet
    let version : WispVersion := ⟨major, minor⟩
    if version.major ≠ wispVersion.major then
      .err (.incompatibleProtocolVersion version wispVersion)
    else do
      let (builders, extensions) ← decodeExtensions role builders packet
      pure (⟨version, extensions⟩, builders)

end InfoPacket

inductive MaybeInfoPacket (E : Type) where
  | packet (packet : Packet)
  | info (info : InfoPacket E)
deriving Repr, DecidableEq

def MaybeInfoPacket.decode [ProtocolExtensionBuilder B E] (packet : Bytes)
    (builders : List B) (role : Role) :
    Outcome WispError (MaybeInfoPacket E × List B) :=
  if packet.length < 1 + 4 then .err .packetTooSmall
  else do
    let (ty, packet) ← getU8 packet
    let (streamId, packet) ← getU32Le packet
    if ty = 0x05 then do
      let (infoPacket, builders) ← InfoPacket.decode packet builders role
      pure (.info infoPacket, builders)
    else do
      let packetType ← PacketType.decode packet ty
      pure (.packet ⟨streamId, packetType⟩, builders)

/-- What a message of the running multiplexor is for: itself, or the handler
of the extension that stands between `before` and `after`. -/
inductive MaybeExtensionPacket (E : Type) where
  | packet (packet : Packet)
  | handle (before : List E) (extension : E) (after : List E) (ty : UInt8)
      (packet : Bytes)
deriving Repr, DecidableEq

namespace MaybeExtensionPacket

variable [ProtocolExtension E]

/-- The first extension that supports this packet type. -/
def findExtension (ty : UInt8) : List E → Option (List E × E × List E)
  | [] => none
  | extension :: rest =>
      if (getSupportedPackets extension).contains ty then
        some ([], extension, rest)
      else
        (findExtension ty rest).map fun (before, found, after) =>
          (extension :: before, found, after)

/-- The decoder up to the call of the handler. -/
def decode (packet : Bytes) (extensions : List E) :
    Outcome WispError (MaybeExtensionPacket E) :=
  if packet.length < 1 + 4 then .err .packetTooSmall
  else do
    let (ty, packet) ← getU8 packet
    let (streamId, packet) ← getU32Le packet
    if 0x01 ≤ ty ∧ ty ≤ 0x04 then do
      let packetType ← PacketType.decode packet ty
      pure (.packet ⟨streamId, packetType⟩)
    else
      match findExtension ty extensions with
      | some (before, extension, after) =>
          pure (.handle before extension after ty packet)
      | none => .err (.invalidPacketType ty)

end MaybeExtensionPacket

end Epoxy
