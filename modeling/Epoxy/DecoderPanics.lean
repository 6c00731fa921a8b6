/-
When a received message can panic the decoders.  Every read of the packet
decoders is guarded; the builders of the authentication extensions are not,
so the INFO decoder panics exactly on an entry that is too short for the
state in which its builder receives it.
-/
import Epoxy.ExtensionBuilders
import Epoxy.InfoFraming

namespace Epoxy

open ByteCursor
open ProtocolExtensionBuilder (buildFromBytes)

theorem CloseReason.decode_ne_panic (packet : Bytes) :
    CloseReason.decode packet ≠ .panic := by
  cases packet <;> simp [CloseReason.decode, getU8]

theorem ConnectPacket.decode_ne_panic (packet : Bytes) :
    ConnectPacket.decode packet ≠ .panic := by
  match packet with
  | [] | [_] | [_, _] => simp [ConnectPacket.decode]
  | ty :: b₀ :: b₁ :: host =>
      have hlength : ¬ (ty :: b₀ :: b₁ :: host).length < 1 + 2 := by
        simp only [List.length_cons]
        omega
      rw [ConnectPacket.decode, if_neg hlength]
      simp [StreamType.decode, getU8, getU16Le, Outcome.bind_eq_panic,
        decodeUtf8_ne_panic]

theorem ContinuePacket.decode_ne_panic (packet : Bytes) :
    ContinuePacket.decode packet ≠ .panic := by
  unfold ContinuePacket.decode
  split
  · simp
  · next hlength =>
      obtain ⟨value, hvalue⟩ :=
        getU32Le_of_length (ε := WispError) (Nat.le_of_not_lt hlength)
      simp [hvalue]

theorem PacketType.decode_ne_panic (packet : Bytes) (ty : UInt8) :
    PacketType.decode packet ty ≠ .panic := by
  unfold PacketType.decode
  split
  · simp [Outcome.bind_eq_panic, ConnectPacket.decode_ne_panic]
  · simp
  · simp [Outcome.bind_eq_panic, ContinuePacket.decode_ne_panic]
  · simp [Outcome.bind_eq_panic, ClosePacket.decode,
      CloseReason.decode_ne_panic]
  · simp

/-- After the size check the packet header is always there. -/
theorem header_of_length {packet : Bytes} (hlength : 5 ≤ packet.length) :
    ∃ ty streamId rest rest',
      (getU8 packet : Outcome WispError (UInt8 × Bytes)) = .ok (ty, rest') ∧
      (getU32Le rest' : Outcome WispError (UInt32 × Bytes)) =
        .ok (streamId, rest) := by
  match packet with
  | [] | [_] | [_, _] | [_, _, _] | [_, _, _, _] => simp at hlength
  | ty :: b₀ :: b₁ :: b₂ :: b₃ :: rest =>
      exact ⟨ty, u32Le b₀ b₁ b₂ b₃, rest, b₀ :: b₁ :: b₂ :: b₃ :: rest, rfl,
        rfl⟩

theorem Packet.decode_ne_panic (packet : Bytes) :
    Packet.decode packet ≠ .panic := by
  unfold Packet.decode
  split
  · simp
  · next hlength =>
      obtain ⟨ty, streamId, rest, rest', hty, hid⟩ :=
        header_of_length (Nat.le_of_not_lt hlength)
      simp [hty, hid, Outcome.bind_eq_panic, PacketType.decode_ne_panic]

theorem MaybeExtensionPacket.decode_ne_panic {E : Type} [ProtocolExtension E]
    (packet : Bytes) (extensions : List E) :
    MaybeExtensionPacket.decode packet extensions ≠ .panic := by
  unfold MaybeExtensionPacket.decode
  split
  · simp
  · next hlength =>
      obtain ⟨ty, streamId, rest, rest', hty, hid⟩ :=
        header_of_length (Nat.le_of_not_lt hlength)
      simp only [hty, hid, Outcome.bind_ok]
      split
      · simp [Outcome.bind_eq_panic, PacketType.decode_ne_panic]
      · split <;> simp

namespace InfoPacket

section Builders

variable {E B : Type} [ProtocolExtensionBuilder B E]

/-- Every payload meets `fits` in the state in which its builder receives it.
An entry without a builder is skipped, and a failed build ends the loop. -/
def EntriesFit (fits : B → Bytes → Prop) (role : Role) :
    List B → List (UInt8 × Bytes) → Prop
  | _, [] => True
  | builders, (id, payload) :: rest =>
      match findBuilder id builders with
      | none => EntriesFit fits role builders rest
      | some (before, builder, after) =>
          fits builder payload ∧
            ∀ left extension,
              buildFromBytes builder payload role = (left, .ok extension) →
              EntriesFit fits role (before ++ left :: after) rest

variable {fits : B → Bytes → Prop}

theorem decodeExtensions_eq_panic {role : Role}
    (hfits : ∀ (builder : B) payload,
      (buildFromBytes builder payload role).2 = .panic ↔
        ¬ fits builder payload)
    (builders : List B) (packet : Bytes) :
    decodeExtensions role builders packet = .panic ↔
      ¬ EntriesFit fits role builders (entries packet) := by
  induction packet using entries.induct generalizing builders with
  | case1 packet hnext =>
      rw [entries_of_none hnext]
      by_cases hlength : packet.length < 5
      · simp [decodeExtensions_of_lt hlength, EntriesFit]
      · rw [decodeExtensions_of_le (Nat.le_of_not_lt hlength), hnext]
        simp [EntriesFit]
  | case2 packet id payload rest hnext ih =>
      have hlength : 5 ≤ packet.length := by
        by_contra hlt
        rw [nextEntry_of_lt (Nat.lt_of_not_le hlt)] at hnext
        cases hnext
      rw [decodeExtensions_of_le hlength, entries_of_some hnext, hnext,
        EntriesFit]
      dsimp only
      cases hfind : findBuilder id builders with
      | none => exact ih builders
      | some found =>
          obtain ⟨before, builder, after⟩ := found
          have hbuilder := hfits builder payload
          cases hbuilt : buildFromBytes builder payload role with
          | mk left built =>
              rw [hbuilt] at hbuilder
              cases built with
              | ok extension =>
                  have hfit : fits builder payload := by
                    simpa using hbuilder
                  simp [hbuilt, Outcome.bind_eq_panic, hfit,
                    ih (before ++ left :: after)]
              | err error =>
                  have hfit : fits builder payload := by
                    simpa using hbuilder
                  simp [hbuilt, hfit]
              | panic => simp [hbuilt, hbuilder.mp rfl]

end Builders

end InfoPacket

theorem MaybeInfoPacket.decode_eq_panic {E B : Type}
    [ProtocolExtensionBuilder B E] {message : Bytes} {builders : List B}
    {role : Role} :
    MaybeInfoPacket.decode message builders role = .panic ↔
      ∃ body, infoBody message = some body ∧
        InfoPacket.decodeExtensions role builders body = .panic := by
  cases hbody : infoBody message with
  | some body =>
      obtain ⟨version, hdecode⟩ := decode_of_infoBody role builders hbody
      rw [hdecode]
      simp [Outcome.bind_eq_panic]
  | none =>
      refine iff_of_false ?_ (by simp)
      rcases decode_of_infoBody_eq_none role builders hbody with
        hdecode | ⟨error, hdecode⟩
      · rw [hdecode]
        simp [Outcome.bind_eq_panic, Packet.decode_ne_panic]
      · rw [hdecode]
        simp

/-- Every extension payload of an INFO message is long enough for the builder
that receives it. -/
def PayloadsFit {σ : Type} [CertCrates σ] (role : Role)
    (builders : List (AnyProtocolExtensionBuilder σ)) (message : Bytes) :
    Prop :=
  ∀ body, infoBody message = some body →
    InfoPacket.EntriesFit AnyProtocolExtensionBuilder.LongEnough role builders
      (InfoPacket.entries body)

theorem MaybeInfoPacket.decode_eq_panic_iff {σ : Type} [CertCrates σ]
    {role : Role} {builders : List (AnyProtocolExtensionBuilder σ)}
    {message : Bytes} :
    MaybeInfoPacket.decode message builders role = .panic ↔
      ¬ PayloadsFit role builders message := by
  have hloop := fun body => InfoPacket.decodeExtensions_eq_panic
    (fun (builder : AnyProtocolExtensionBuilder σ) payload =>
      builder.buildFromBytes_eq_panic payload role)
    builders body
  rw [MaybeInfoPacket.decode_eq_panic, PayloadsFit]
  simp only [hloop, not_forall, exists_prop]

/-- No message panics a decoder, except an INFO message with a payload that is
too short for its builder; and such a message always does. -/
theorem decoders_ne_panic_iff {σ E : Type} [CertCrates σ]
    [ProtocolExtension E] (role : Role)
    (builders : List (AnyProtocolExtensionBuilder σ)) (extensions : List E)
    (message : Bytes) :
    (MaybeInfoPacket.decode message builders role ≠ .panic ∧
      Packet.decode message ≠ .panic ∧
      MaybeExtensionPacket.decode message extensions ≠ .panic) ↔
        PayloadsFit role builders message := by
  constructor
  · rintro ⟨hinfo, _, _⟩
    by_contra hfit
    exact hinfo (MaybeInfoPacket.decode_eq_panic_iff.mpr hfit)
  · intro hfit
    refine ⟨fun hinfo => ?_, Packet.decode_ne_panic message,
      MaybeExtensionPacket.decode_ne_panic message extensions⟩
    exact MaybeInfoPacket.decode_eq_panic_iff.mp hinfo hfit

/-- A password server reads the length of the user name from an empty
payload. -/
theorem empty_credentials_panic :
    MaybeInfoPacket.decode
      [0x05, 0, 0, 0, 0, 2, 0, 0x02, 0, 0, 0, 0]
      ([.password (.serverBeforeClientInfo [("user", "pass")] true)] :
        List (AnyProtocolExtensionBuilder Empty)) .server = .panic := by
  refine MaybeInfoPacket.decode_eq_panic.mpr ⟨[0x02, 0, 0, 0, 0], rfl, ?_⟩
  rw [InfoPacket.decodeExtensions_of_le (by decide)]
  rfl

end Epoxy
