/-
The framing of the INFO packet.  On the wire an extension is an entry: an id,
a length and a payload.  What the decoder does is told by the entries that it
finds; what the encoder writes is found again, as long as the payloads fit
their 32-bit lengths.
-/
import Epoxy.InfoPacket

namespace Epoxy

open ByteCursor
open ProtocolExtensionBuilder (buildFromBytes buildToExtension)

namespace InfoPacket

/-- The complete extension entries at the front of the bytes. -/
def entries (packet : Bytes) : List (UInt8 × Bytes) :=
  match _hnext : nextEntry packet with
  | none => []
  | some (id, payload, rest) => (id, payload) :: entries rest
termination_by packet.length
decreasing_by exact length_of_nextEntry _hnext

theorem entries_of_none {packet : Bytes} (hnext : nextEntry packet = none) :
    entries packet = [] := by
  rw [entries]
  split
  · rfl
  · next hsome =>
      rw [hnext] at hsome
      cases hsome

theorem entries_of_some {packet payload rest : Bytes} {id : UInt8}
    (hnext : nextEntry packet = some (id, payload, rest)) :
    entries packet = (id, payload) :: entries rest := by
  rw [entries]
  split
  · next hnone =>
      rw [hnext] at hnone
      cases hnone
  · next hsome =>
      rw [hnext] at hsome
      cases hsome
      rfl

theorem nextEntry_of_lt {packet : Bytes} (hlength : packet.length < 5) :
    nextEntry packet = none := by
  match packet with
  | [] | [_] | [_, _] | [_, _, _] | [_, _, _, _] => rfl
  | _ :: _ :: _ :: _ :: _ :: rest =>
      simp only [List.length_cons] at hlength
      omega

/-- One entry as the encoder writes it. -/
def encodeEntry (entry : UInt8 × Bytes) : Bytes :=
  [entry.1] ++ putU32Le (UInt32.ofNat entry.2.length) ++ entry.2

def encodeEntries (entries : List (UInt8 × Bytes)) : Bytes :=
  entries.flatMap encodeEntry

/-- The payload is as long as its encoded length says. -/
def FitsLength (payload : Bytes) : Prop := payload.length < 2 ^ 32

theorem nextEntry_encodeEntry {id : UInt8} {payload : Bytes}
    (hfit : FitsLength payload) (rest : Bytes) :
    nextEntry (encodeEntry (id, payload) ++ rest) =
      some (id, payload, rest) := by
  have hlength : (UInt32.ofNat payload.length).toNat = payload.length := by
    rw [UInt32.toNat_ofNat']
    exact Nat.mod_eq_of_lt hfit
  have hread := u32Le_bytes (UInt32.ofNat payload.length)
  rw [hlength] at hread
  simp only [encodeEntry, putU32Le, List.cons_append, List.nil_append,
    nextEntry, hlength, hread, List.length_append]
  rw [if_pos (Nat.le_add_right _ _)]
  simp

theorem length_encodeEntry (entry : UInt8 × Bytes) :
    (encodeEntry entry).length = 5 + entry.2.length := by
  simp only [encodeEntry, List.length_append, List.length_cons,
    List.length_nil, length_putU32Le]

section Encoder

variable {E : Type} [ProtocolExtension E]

/-- The entries of a list of extensions. -/
def wireEntries : List E → Outcome WispError (List (UInt8 × Bytes))
  | [] => .ok []
  | extension :: rest =>
      ProtocolExtension.encode extension >>= fun payload =>
        wireEntries rest >>= fun entries =>
          .ok ((ProtocolExtension.getId extension, payload) :: entries)

/-- The bytes in front of the entries. -/
def header (version : WispVersion) : Bytes :=
  [0x05] ++ [0, 0, 0, 0] ++ [version.major, version.minor]

theorem encode_eq (info : InfoPacket E) :
    info.encode = wireEntries info.extensions >>= fun entries =>
      .ok (header info.version ++ encodeEntries entries) := by
  rcases info with ⟨version, extensions⟩
  change List.foldlM (fun packet extension => encodeInto extension packet)
    (header version) extensions = wireEntries extensions >>= fun entries =>
      .ok (header version ++ encodeEntries entries)
  generalize header version = front
  induction extensions generalizing front with
  | nil => simp [wireEntries, encodeEntries]
  | cons extension rest ih =>
      rw [List.foldlM_cons, wireEntries]
      cases hpayload : ProtocolExtension.encode extension with
      | ok payload =>
          have hinto : encodeInto extension front = .ok (front ++
              encodeEntry (ProtocolExtension.getId extension, payload)) := by
            simp [encodeInto, hpayload, encodeEntry]
          rw [hinto, Outcome.bind_ok, ih]
          cases wireEntries rest with
          | ok entries => simp [encodeEntries]
          | err error => rfl
          | panic => rfl
      | err error => simp [encodeInto, hpayload]
      | panic => simp [encodeInto, hpayload]

theorem ids_of_wireEntries {extensions : List E}
    {entries : List (UInt8 × Bytes)}
    (h : wireEntries extensions = .ok entries) :
    entries.map Prod.fst = extensions.map ProtocolExtension.getId := by
  induction extensions generalizing entries with
  | nil =>
      cases h
      rfl
  | cons extension rest ih =>
      simp only [wireEntries, Outcome.bind_eq_ok] at h
      obtain ⟨payload, -, others, hothers, hentries⟩ := h
      cases hentries
      simp only [List.map_cons, ih hothers]

end Encoder

section Builders

variable {E B : Type} [ProtocolExtensionBuilder B E]

/-- Hand the entries to the builders, one after another. -/
def buildEntries (role : Role) :
    List B → List (UInt8 × Bytes) → Outcome WispError (List B × List E)
  | builders, [] => .ok (builders, [])
  | builders, (id, payload) :: rest =>
      match findBuilder id builders with
      | none => buildEntries role builders rest
      | some (before, builder, after) =>
          (buildFromBytes builder payload role).2 >>= fun extension =>
            (buildEntries role
              (before ++ (buildFromBytes builder payload role).1 :: after)
              rest) >>= fun next => .ok (next.1, extension :: next.2)

theorem findBuilder_eq_none {id : UInt8} {builders : List B}
    (hnone : findBuilder id builders = none) :
    id ∉ builders.map ProtocolExtensionBuilder.getId := by
  induction builders with
  | nil => simp
  | cons head tail ih =>
      rw [findBuilder] at hnone
      split at hnone
      · cases hnone
      · next hid =>
          rw [Option.map_eq_none_iff] at hnone
          simp only [List.map_cons, List.mem_cons, not_or]
          exact ⟨fun heq => hid heq.symm, ih hnone⟩

/-- What the decoder accepted it built from the entries it found. -/
theorem decodeExtensions_eq_ok {role : Role} {builders : List B}
    {packet : Bytes} {built : List B × List E}
    (h : decodeExtensions role builders packet = .ok built) :
    buildEntries role builders (entries packet) = .ok built := by
  induction packet using entries.induct generalizing builders built with
  | case1 packet hnext =>
      rw [entries_of_none hnext]
      by_cases hlength : packet.length < 5
      · rwa [decodeExtensions_of_lt hlength] at h
      · rw [decodeExtensions_of_le (Nat.le_of_not_lt hlength), hnext] at h
        cases h
  | case2 packet id payload rest hnext ih =>
      have hlength : 5 ≤ packet.length := by
        by_contra hlt
        rw [nextEntry_of_lt (Nat.lt_of_not_le hlt)] at hnext
        cases hnext
      rw [decodeExtensions_of_le hlength, hnext] at h
      rw [entries_of_some hnext, buildEntries]
      dsimp only at h
      cases hfind : findBuilder id builders with
      | none =>
          rw [hfind] at h
          exact ih h
      | some found =>
          obtain ⟨before, builder, after⟩ := found
          rw [hfind] at h
          simp only [Outcome.bind_eq_ok] at h ⊢
          obtain ⟨extension, hbuilt, next, hnext, hpair⟩ := h
          exact ⟨extension, hbuilt, next, ih hnext, hpair⟩

/-- The decoder finds the entries that the encoder wrote. -/
theorem decodeExtensions_encodeEntries {role : Role} {builders : List B}
    {entries : List (UInt8 × Bytes)}
    (hfits : ∀ entry ∈ entries, FitsLength entry.2) :
    decodeExtensions role builders (encodeEntries entries) =
      buildEntries role builders entries := by
  induction entries generalizing builders with
  | nil => exact decodeExtensions_of_lt (by simp [encodeEntries])
  | cons entry rest ih =>
      obtain ⟨id, payload⟩ := entry
      have hrest : ∀ builders : List B,
          decodeExtensions role builders (encodeEntries rest) =
            buildEntries role builders rest := fun builders =>
        ih fun entry hentry => hfits entry (List.mem_cons_of_mem _ hentry)
      have hlength : 5 ≤ (encodeEntries ((id, payload) :: rest)).length := by
        simp only [encodeEntries, List.flatMap_cons, List.length_append,
          length_encodeEntry]
        omega
      have hnext : nextEntry (encodeEntries ((id, payload) :: rest)) =
          some (id, payload, encodeEntries rest) :=
        nextEntry_encodeEntry (hfits (id, payload) List.mem_cons_self)
          (encodeEntries rest)
      rw [decodeExtensions_of_le hlength, hnext, buildEntries]
      dsimp only
      cases findBuilder id builders with
      | none => exact hrest builders
      | some found =>
          dsimp only
          rw [hrest]

/-- The stream id and the second number of the version are read and not
looked at. -/
theorem decode_cons (role : Role) (builders : List B)
    (b₀ b₁ b₂ b₃ minor : UInt8) (body : Bytes) :
    MaybeInfoPacket.decode
        (0x05 :: b₀ :: b₁ :: b₂ :: b₃ :: wispVersion.major :: minor :: body)
        builders role =
      decodeExtensions role builders body >>= fun built =>
        .ok (.info ⟨⟨wispVersion.major, minor⟩, built.2⟩, built.1) := by
  have hlength : ¬ (0x05 :: b₀ :: b₁ :: b₂ :: b₃ :: wispVersion.major ::
      minor :: body).length < 1 + 4 := by
    simp only [List.length_cons]
    omega
  have hversion : ¬ body.length + 1 + 1 < 1 * 2 := by omega
  rw [MaybeInfoPacket.decode, if_neg hlength]
  simp only [getU8, getU32Le, Outcome.bind_ok, if_true, decode,
    List.length_cons, if_neg hversion, ne_eq, not_true_eq_false, if_false]
  cases decodeExtensions role builders body with
  | ok built => rfl
  | err error => rfl
  | panic => rfl

/-- A message that starts like an INFO packet of a version with the same first
number is one. -/
theorem decode_header_of_major (role : Role) (builders : List B) (body : Bytes)
    {version : WispVersion} (hmajor : version.major = wispVersion.major) :
    MaybeInfoPacket.decode (header version ++ body) builders role =
      decodeExtensions role builders body >>= fun built =>
        .ok (.info ⟨version, built.2⟩, built.1) := by
  obtain ⟨major, minor⟩ := version
  obtain rfl : major = wispVersion.major := hmajor
  exact decode_cons role builders 0 0 0 0 minor body

theorem decode_header (role : Role) (builders : List B) (body : Bytes) :
    MaybeInfoPacket.decode (header wispVersion ++ body) builders role =
      decodeExtensions role builders body >>= fun built =>
        .ok (.info ⟨wispVersion, built.2⟩, built.1) :=
  decode_header_of_major role builders body rfl

/-- Any other message is decoded like a packet. -/
theorem decode_of_head_ne (role : Role) (builders : List B) {message : Bytes}
    (hhead : message.head? ≠ some 0x05) :
    MaybeInfoPacket.decode message builders role =
      Packet.decode message >>= fun packet =>
        .ok (.packet packet, builders) := by
  match message with
  | [] | [_] | [_, _] | [_, _, _] | [_, _, _, _] => rfl
  | ty :: b₀ :: b₁ :: b₂ :: b₃ :: rest =>
      have hty : ty ≠ 0x05 := fun heq => hhead (by rw [heq]; rfl)
      have hlength : ¬ (ty :: b₀ :: b₁ :: b₂ :: b₃ :: rest).length < 1 + 4 := by
        simp only [List.length_cons]
        omega
      rw [MaybeInfoPacket.decode, Packet.decode, if_neg hlength,
        if_neg hlength]
      simp only [getU8, getU32Le, Outcome.bind_ok, if_neg hty]
      cases PacketType.decode rest ty with
      | ok packetType => rfl
      | err error => rfl
      | panic => rfl

end Builders

end InfoPacket

/-- What the INFO decoder hands to its entry loop, if it gets there. -/
def infoBody : Bytes → Option Bytes
  | ty :: _ :: _ :: _ :: _ :: major :: _ :: body =>
      if ty = 0x05 ∧ major = wispVersion.major then some body else none
  | _ => none

namespace MaybeInfoPacket

variable {E B : Type} [ProtocolExtensionBuilder B E] {message body : Bytes}

theorem decode_of_infoBody (role : Role) (builders : List B)
    (h : infoBody message = some body) :
    ∃ version : WispVersion,
      MaybeInfoPacket.decode message builders role =
        InfoPacket.decodeExtensions role builders body >>= fun built =>
          .ok (.info ⟨version, built.2⟩, built.1) := by
  unfold infoBody at h
  split at h
  · next ty b₀ b₁ b₂ b₃ major minor rest =>
      split at h
      · next hinfo =>
          obtain ⟨rfl, rfl⟩ := hinfo
          obtain rfl := Option.some.inj h
          exact ⟨_, InfoPacket.decode_cons role builders b₀ b₁ b₂ b₃ minor _⟩
      · cases h
  · cases h

/-- What is no INFO packet of this version is decoded like a packet or is an
error. -/
theorem decode_of_infoBody_eq_none (role : Role) (builders : List B)
    (h : infoBody message = none) :
    (MaybeInfoPacket.decode message builders role =
        Packet.decode message >>= fun packet =>
          .ok (.packet packet, builders)) ∨
      ∃ error, MaybeInfoPacket.decode message builders role = .err error := by
  by_cases hhead : message.head? = some 0x05
  · right
    match message with
    | [] => cases hhead
    | [_] | [_, _] | [_, _, _] | [_, _, _, _] => exact ⟨_, rfl⟩
    | [ty, _, _, _, _] | [ty, _, _, _, _, _] =>
        obtain rfl : ty = 0x05 := Option.some.inj hhead
        exact ⟨_, rfl⟩
    | ty :: b₀ :: b₁ :: b₂ :: b₃ :: major :: minor :: rest =>
        obtain rfl : ty = 0x05 := Option.some.inj hhead
        have hmajor : major ≠ wispVersion.major := by
          intro heq
          simp [infoBody, heq] at h
        have hlength : ¬ (0x05 :: b₀ :: b₁ :: b₂ :: b₃ :: major :: minor ::
            rest).length < 1 + 4 := by
          simp only [List.length_cons]
          omega
        have hversion : ¬ rest.length + 1 + 1 < 1 * 2 := by omega
        rw [MaybeInfoPacket.decode, if_neg hlength]
        simp only [getU8, getU32Le, Outcome.bind_ok, if_true,
          InfoPacket.decode, List.length_cons, if_neg hversion, ne_eq, hmajor,
          not_false_eq_true]
        exact ⟨_, rfl⟩
  · exact .inl (InfoPacket.decode_of_head_ne role builders hhead)

/-- A message that was decoded as an INFO packet is one, and its extensions
are what the entry loop built. -/
theorem decode_eq_info {builders left : List B} {role : Role}
    {info : InfoPacket E}
    (h : MaybeInfoPacket.decode message builders role =
      .ok (.info info, left)) :
    ∃ body, infoBody message = some body ∧
      InfoPacket.decodeExtensions role builders body =
        .ok (left, info.extensions) := by
  cases hbody : infoBody message with
  | some body =>
      obtain ⟨version, hdecode⟩ := decode_of_infoBody role builders hbody
      rw [hdecode, Outcome.bind_eq_ok] at h
      obtain ⟨built, hbuilt, hinfo⟩ := h
      cases hinfo
      exact ⟨body, rfl, hbuilt⟩
  | none =>
      rcases decode_of_infoBody_eq_none role builders hbody with
        hdecode | ⟨error, hdecode⟩
      · rw [hdecode, Outcome.bind_eq_ok] at h
        obtain ⟨packet, -, hpacket⟩ := h
        cases hpacket
      · rw [hdecode] at h
        cases h

end MaybeInfoPacket

end Epoxy
