/-
The builders as the INFO decoder drives them.  Which builder is handed which
bytes, in which order, and where this ends is said by rules over the entries
of the packet; the decoder follows them on what the encoder wrote, and on any
other bytes up to the first incomplete entry.
-/
import Epoxy.ExtensionBuilders
import Epoxy.InfoFraming

namespace Epoxy

open ByteCursor
open ProtocolExtensionBuilder (buildFromBytes)

variable {E B : Type}

/-- A call of `build_from_bytes`: the builder as it was, and the bytes. -/
structure BuilderCall (B : Type) where
  builder : B
  bytes : Bytes

namespace InfoPacket

/-- The extension has this id and this encoded payload. -/
def Encodes [ProtocolExtension E] (extension : E) (entry : UInt8 × Bytes) :
    Prop :=
  ProtocolExtension.getId extension = entry.1 ∧
    ProtocolExtension.encode extension = .ok entry.2

theorem wireEntries_eq_ok [ProtocolExtension E] {extensions : List E}
    {entries : List (UInt8 × Bytes)}
    (hencoded : List.Forall₂ Encodes extensions entries) :
    wireEntries extensions = .ok entries := by
  induction hencoded with
  | nil => rfl
  | @cons extension entry extensions entries hhead _ ih =>
      obtain ⟨hid, hpayload⟩ := hhead
      simp only [wireEntries, hid, hpayload, ih, Outcome.bind_ok]

variable [ProtocolExtensionBuilder B E]

/-- The calls that a row of entries makes, and what comes of them: an entry
goes to the first builder of its id, or to nobody, and the first refusal is
the last call. -/
inductive Fed (role : Role) : List B → List (UInt8 × Bytes) →
    List (BuilderCall B) → Outcome WispError (List B × List E) → Prop where
  | finished (builders : List B) :
      Fed role builders [] [] (.ok (builders, []))
  | skipped {builders : List B} {rest : List (UInt8 × Bytes)}
      {calls : List (BuilderCall B)}
      {result : Outcome WispError (List B × List E)}
      (id : UInt8) (payload : Bytes)
      (hnone : ∀ builder ∈ builders,
        ProtocolExtensionBuilder.getId builder ≠ id)
      (hrest : Fed role builders rest calls result) :
      Fed role builders ((id, payload) :: rest) calls result
  | built {before after : List B} {builder next : B} {extension : E}
      {rest : List (UInt8 × Bytes)} {calls : List (BuilderCall B)}
      {result : Outcome WispError (List B × List E)}
      (id : UInt8) (payload : Bytes)
      (hbefore : ∀ other ∈ before,
        ProtocolExtensionBuilder.getId other ≠ id)
      (hid : ProtocolExtensionBuilder.getId builder = id)
      (hbuild : buildFromBytes builder payload role = (next, .ok extension))
      (hrest : Fed role (before ++ next :: after) rest calls result) :
      Fed role (before ++ builder :: after) ((id, payload) :: rest)
        (⟨builder, payload⟩ :: calls)
        (result.map fun left => (left.1, extension :: left.2))
  | failed {before after : List B} {builder next : B} {error : WispError}
      {rest : List (UInt8 × Bytes)} (id : UInt8) (payload : Bytes)
      (hbefore : ∀ other ∈ before,
        ProtocolExtensionBuilder.getId other ≠ id)
      (hid : ProtocolExtensionBuilder.getId builder = id)
      (hbuild : buildFromBytes builder payload role = (next, .err error)) :
      Fed role (before ++ builder :: after) ((id, payload) :: rest)
        [⟨builder, payload⟩] (.err error)
  | panicked {before after : List B} {builder next : B}
      {rest : List (UInt8 × Bytes)} (id : UInt8) (payload : Bytes)
      (hbefore : ∀ other ∈ before,
        ProtocolExtensionBuilder.getId other ≠ id)
      (hid : ProtocolExtensionBuilder.getId builder = id)
      (hbuild : buildFromBytes builder payload role = (next, .panic)) :
      Fed role (before ++ builder :: after) ((id, payload) :: rest)
        [⟨builder, payload⟩] .panic

theorem findBuilder_of_absent {id : UInt8} {builders : List B}
    (hnone : ∀ builder ∈ builders,
      ProtocolExtensionBuilder.getId builder ≠ id) :
    findBuilder id builders = none := by
  induction builders with
  | nil => rfl
  | cons head tail ih =>
      rw [findBuilder, if_neg (hnone head List.mem_cons_self),
        ih fun builder hbuilder =>
          hnone builder (List.mem_cons_of_mem head hbuilder)]
      rfl

theorem findBuilder_of_first {id : UInt8} {before after : List B}
    {builder : B}
    (hbefore : ∀ other ∈ before, ProtocolExtensionBuilder.getId other ≠ id)
    (hid : ProtocolExtensionBuilder.getId builder = id) :
    findBuilder id (before ++ builder :: after) =
      some (before, builder, after) := by
  induction before with
  | nil => rw [List.nil_append, findBuilder, if_pos hid]
  | cons head tail ih =>
      rw [List.cons_append, findBuilder,
        if_neg (hbefore head List.mem_cons_self),
        ih fun other hother => hbefore other (List.mem_cons_of_mem head hother)]
      rfl

/-- What is found is the first of its id. -/
theorem first_of_findBuilder {id : UInt8} {builders before after : List B}
    {found : B} (h : findBuilder id builders = some (before, found, after)) :
    builders = before ++ found :: after ∧
      ProtocolExtensionBuilder.getId found = id ∧
      ∀ other ∈ before, ProtocolExtensionBuilder.getId other ≠ id := by
  obtain ⟨hsplit, hid⟩ := findBuilder_eq_some h
  refine ⟨hsplit, hid, ?_⟩
  induction builders generalizing before with
  | nil => cases h
  | cons head tail ih =>
      rw [findBuilder] at h
      split at h
      · cases h
        simp
      · next hhead =>
          simp only [Option.map_eq_some_iff] at h
          obtain ⟨⟨front, middle, back⟩, hfind, heq⟩ := h
          cases heq
          have hfront := ih hfind (findBuilder_eq_some hfind).1
          simp only [List.mem_cons, forall_eq_or_imp]
          exact ⟨hhead, hfront⟩

/-- The calls in the order in which the loop makes them. -/
def builderCalls (role : Role) :
    List B → List (UInt8 × Bytes) → List (BuilderCall B)
  | _, [] => []
  | builders, (id, payload) :: rest =>
      match findBuilder id builders with
      | none => builderCalls role builders rest
      | some (before, builder, after) =>
          ⟨builder, payload⟩ ::
            if (buildFromBytes builder payload role).2.isOk then
              builderCalls role
                (before ++ (buildFromBytes builder payload role).1 :: after)
                rest
            else []

theorem fed_builderCalls (role : Role) (builders : List B)
    (entries : List (UInt8 × Bytes)) :
    Fed role builders entries (builderCalls role builders entries)
      (buildEntries role builders entries) := by
  induction entries generalizing builders with
  | nil => exact .finished builders
  | cons entry rest ih =>
      obtain ⟨id, payload⟩ := entry
      cases hfind : findBuilder id builders with
      | none =>
          rw [builderCalls, buildEntries, hfind]
          refine .skipped id payload ?_ (ih builders)
          intro builder hbuilder hid
          exact findBuilder_eq_none hfind
            (List.mem_map.mpr ⟨builder, hbuilder, hid⟩)
      | some found =>
          obtain ⟨before, builder, after⟩ := found
          obtain ⟨rfl, hid, hbefore⟩ := first_of_findBuilder hfind
          rw [builderCalls, buildEntries, hfind]
          dsimp only
          cases hbuild : buildFromBytes builder payload role with
          | mk next outcome =>
              cases outcome with
              | ok extension =>
                  have hrest := ih (before ++ next :: after)
                  have hbuilt :=
                    Fed.built id payload hbefore hid hbuild hrest
                  rw [Outcome.map_eq_bind] at hbuilt
                  exact hbuilt
              | err error => exact .failed id payload hbefore hid hbuild
              | panic => exact .panicked id payload hbefore hid hbuild

/-- The rules leave nothing open. -/
theorem Fed.unique {role : Role} {builders : List B}
    {entries : List (UInt8 × Bytes)} {calls : List (BuilderCall B)}
    {result : Outcome WispError (List B × List E)}
    (h : Fed role builders entries calls result) :
    calls = builderCalls role builders entries ∧
      result = buildEntries role builders entries := by
  induction h with
  | finished builders => exact ⟨rfl, rfl⟩
  | skipped id payload hnone _ ih =>
      rw [builderCalls, buildEntries, findBuilder_of_absent hnone]
      exact ih
  | @built _ _ _ next _ _ _ result id payload hbefore hid hbuild _ ih =>
      rw [builderCalls, buildEntries, findBuilder_of_first hbefore hid]
      dsimp only
      rw [hbuild]
      obtain ⟨rfl, rfl⟩ := ih
      exact ⟨rfl, Outcome.map_eq_bind _ _⟩
  | failed id payload hbefore hid hbuild =>
      rw [builderCalls, buildEntries, findBuilder_of_first hbefore hid]
      dsimp only
      rw [hbuild]
      exact ⟨rfl, rfl⟩
  | panicked id payload hbefore hid hbuild =>
      rw [builderCalls, buildEntries, findBuilder_of_first hbefore hid]
      dsimp only
      rw [hbuild]
      exact ⟨rfl, rfl⟩

/-- What stands behind the complete entries. -/
def leftover (packet : Bytes) : Bytes :=
  match _hnext : nextEntry packet with
  | none => packet
  | some (_, _, rest) => leftover rest
termination_by packet.length
decreasing_by exact length_of_nextEntry _hnext

theorem leftover_of_none {packet : Bytes} (hnext : nextEntry packet = none) :
    leftover packet = packet := by
  rw [leftover]
  split
  · rfl
  · next hsome =>
      rw [hnext] at hsome
      cases hsome

theorem leftover_of_some {packet payload rest : Bytes} {id : UInt8}
    (hnext : nextEntry packet = some (id, payload, rest)) :
    leftover packet = leftover rest := by
  rw [leftover]
  split
  · next hnone =>
      rw [hnext] at hnone
      cases hnone
  · next hsome =>
      rw [hnext] at hsome
      cases hsome
      rfl

theorem nextEntry_sound {packet payload rest : Bytes} {id : UInt8}
    (hnext : nextEntry packet = some (id, payload, rest)) :
    packet = encodeEntry (id, payload) ++ rest := by
  unfold nextEntry at hnext
  split at hnext
  · next first b₀ b₁ b₂ b₃ body =>
      dsimp only at hnext
      split at hnext
      · next hle =>
          cases hnext
          have hlength : UInt32.ofNat
              (body.take (u32Le b₀ b₁ b₂ b₃).toNat).length =
                u32Le b₀ b₁ b₂ b₃ := by
            rw [List.length_take_of_le hle, UInt32.ofNat_toNat]
          have hbytes : (getU32Le (b₀ :: b₁ :: b₂ :: b₃ :: body) :
              Outcome WispError (UInt32 × Bytes)) =
                .ok (u32Le b₀ b₁ b₂ b₃, body) := rfl
          rw [encodeEntry, hlength, getU32Le_sound hbytes,
            List.append_assoc, List.append_assoc, List.take_append_drop]
          rfl
      · cases hnext
  · cases hnext

/-- The loop ends on every input: all its rounds but the last take an entry
off the packet. -/
theorem entries_append_leftover (packet : Bytes) :
    encodeEntries (entries packet) ++ leftover packet = packet := by
  induction packet using entries.induct with
  | case1 packet hnext =>
      rw [entries_of_none hnext, leftover_of_none hnext]
      rfl
  | case2 packet id payload rest hnext ih =>
      rw [entries_of_some hnext, leftover_of_some hnext, encodeEntries,
        List.flatMap_cons, List.append_assoc, ← encodeEntries, ih,
        ← nextEntry_sound hnext]

/-- On any bytes the loop feeds the entries, and refuses what is left if it is
long enough to begin another one. -/
theorem decodeExtensions_eq (role : Role) (builders : List B)
    (packet : Bytes) :
    decodeExtensions role builders packet =
      buildEntries role builders (entries packet) >>= fun built =>
        if (leftover packet).length < 5 then .ok built
        else .err .packetTooSmall := by
  induction packet using entries.induct generalizing builders with
  | case1 packet hnext =>
      rw [entries_of_none hnext, leftover_of_none hnext, buildEntries,
        Outcome.bind_ok]
      by_cases hlength : packet.length < 5
      · rw [decodeExtensions_of_lt hlength, if_pos hlength]
      · rw [decodeExtensions_of_le (Nat.le_of_not_lt hlength), hnext,
          if_neg hlength]
  | case2 packet id payload rest hnext ih =>
      have hlength : 5 ≤ packet.length := by
        by_contra hlt
        rw [nextEntry_of_lt (Nat.lt_of_not_le hlt)] at hnext
        cases hnext
      rw [decodeExtensions_of_le hlength, hnext, entries_of_some hnext,
        leftover_of_some hnext, buildEntries]
      dsimp only
      cases findBuilder id builders with
      | none => exact ih builders
      | some found =>
          dsimp only
          rw [ih]
          simp only [bind_assoc, Outcome.bind_ok]
          by_cases hleft : (leftover rest).length < 5
          · simp only [if_pos hleft, Outcome.bind_ok]
          · simp only [if_neg hleft, Outcome.bind_err]

theorem length_encodeEntries (entries : List (UInt8 × Bytes)) :
    5 * entries.length ≤ (encodeEntries entries).length := by
  induction entries with
  | nil => simp
  | cons entry rest ih =>
      simp only [encodeEntries] at ih ⊢
      simp only [List.flatMap_cons, List.length_append, List.length_cons,
        length_encodeEntry]
      omega

/-- What one side encodes the other side feeds to its builders by the rules,
which leave nothing open; and any bytes at all are a row of entries and an
incomplete rest, after no more rounds than there are entries. -/
theorem info_framing [ProtocolExtension E] (role : Role) (builders : List B) :
    (∀ (version : WispVersion) (extensions : List E)
      (entries : List (UInt8 × Bytes)),
      version.major = 2 → List.Forall₂ Encodes extensions entries →
      (∀ entry ∈ entries, FitsLength entry.2) →
      ∃ packet calls result,
        encode ⟨version, extensions⟩ = .ok packet ∧
        Fed role builders entries calls result ∧
        (∀ calls' result', Fed role builders entries calls' result' →
          calls' = calls ∧ result' = result) ∧
        MaybeInfoPacket.decode packet builders role =
          result.map fun built => (.info ⟨version, built.2⟩, built.1)) ∧
    ∀ packet : Bytes,
      encodeEntries (entries packet) ++ leftover packet = packet ∧
      5 * (entries packet).length ≤ packet.length ∧
      decodeExtensions role builders packet =
        buildEntries role builders (entries packet) >>= fun built =>
          if (leftover packet).length < 5 then .ok built
          else .err .packetTooSmall := by
  constructor
  · intro version extensions entries hmajor hencoded hfits
    refine ⟨header version ++ encodeEntries entries,
      builderCalls role builders entries, buildEntries role builders entries,
      ?_, fed_builderCalls role builders entries, ?_, ?_⟩
    · rw [encode_eq, wireEntries_eq_ok hencoded, Outcome.bind_ok]
    · intro calls' result' hfed
      exact hfed.unique
    · rw [decode_header_of_major role builders _ hmajor,
        decodeExtensions_encodeEntries hfits, Outcome.map_eq_bind]
  · intro packet
    have hwhole := entries_append_leftover packet
    refine ⟨hwhole, ?_, decodeExtensions_eq role builders packet⟩
    have hlength := congrArg List.length hwhole
    have hentries := length_encodeEntries (entries packet)
    rw [List.length_append] at hlength
    omega

/-- A greeting has no builder at a client that only knows UDP; the entry behind
it is built all the same. -/
theorem decode_of_motd_and_udp :
    ∃ packet,
      encode ⟨wispVersion, [AnyProtocolExtension.motd ⟨.server, "hi"⟩, .udp]⟩ =
        .ok packet ∧
      MaybeInfoPacket.decode packet
          [(.udp : AnyProtocolExtensionBuilder Empty)] .client =
        .ok (.info ⟨wispVersion, [.udp]⟩, [.udp]) := by
  have hencoded : List.Forall₂ Encodes
      [AnyProtocolExtension.motd ⟨.server, "hi"⟩, .udp]
      [(0x04, [104, 105]), (0x01, [])] :=
    .cons ⟨rfl, by decide⟩ (.cons ⟨rfl, rfl⟩ .nil)
  have hfed : Fed .client [(.udp : AnyProtocolExtensionBuilder Empty)]
      [(0x04, [104, 105]), (0x01, [])] [⟨.udp, []⟩]
      (.ok ([.udp], [AnyProtocolExtension.udp])) := by
    refine .skipped 0x04 [104, 105] ?_ ?_
    · intro builder hbuilder
      obtain rfl := List.mem_singleton.mp hbuilder
      decide
    · have hbuild : buildFromBytes (.udp : AnyProtocolExtensionBuilder Empty)
          [] .client = (.udp, .ok AnyProtocolExtension.udp) := rfl
      have hbefore : ∀ other ∈ ([] : List (AnyProtocolExtensionBuilder Empty)),
          ProtocolExtensionBuilder.getId other ≠ 0x01 := by simp
      have hrest : Fed .client
          ([] ++ (.udp : AnyProtocolExtensionBuilder Empty) :: []) [] []
          (.ok ([.udp], ([] : List AnyProtocolExtension))) := .finished _
      exact Fed.built 0x01 [] hbefore rfl hbuild hrest
  obtain ⟨packet, calls, result, hencode, -, hunique, hdecode⟩ :=
    (info_framing .client [(.udp : AnyProtocolExtensionBuilder Empty)]).1
      wispVersion _ _ rfl hencoded (by simp [FitsLength])
  obtain ⟨-, rfl⟩ := hunique _ _ hfed
  exact ⟨packet, hencode, hdecode⟩

end InfoPacket

end Epoxy
