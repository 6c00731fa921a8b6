/-
Creating a multiplexor, and requiring extensions of the peer.  Whatever the
peer sends, a multiplexor that was created with required extensions has had
each of them from an entry of the peer's INFO packet that a builder accepted,
or has it by being a v1 connection.
-/
import Epoxy.BuilderCalls
import Epoxy.HandshakeAgreement

namespace Epoxy

open ByteCursor PollChannel SessionNetwork
open InfoPacket (builderCalls)
open ProtocolExtensionBuilder (buildFromBytes)

namespace Handshake

variable {α β : Type} {inputs : List (Option (Except WispError Bytes))}

/-- The handshake can end with this result once it has received these
inputs, whatever its sends were answered. -/
def Ends (handshake : Handshake α)
    (inputs : List (Option (Except WispError Bytes)))
    (result : Outcome WispError α) : Prop :=
  Session.Ends handshake inputs result

theorem ends_lift {x : Outcome WispError α} {result : Outcome WispError α} :
    Ends (lift x) inputs result ↔ inputs = [] ∧ result = x :=
  Session.ends_ret

theorem ends_pure_ok {value result : α} :
    Ends (pure value) inputs (.ok result) ↔
      inputs = [] ∧ result = value := by
  refine ends_lift.trans (and_congr_right fun _ => ?_)
  exact ⟨Outcome.ok.inj, congrArg _⟩

variable {rest : α → Handshake β} {value : β}

/-- A handshake that succeeds goes through its parts one after another. -/
theorem ends_bind {first : Handshake α}
    (h : Ends (first >>= rest) inputs (.ok value)) :
    ∃ before mid after, inputs = before ++ after ∧
      Ends first before (.ok mid) ∧ Ends (rest mid) after (.ok value) := by
  obtain ⟨before, mid, after, hsplit, hfirst, hrest⟩ := Session.Ends.of_bind h
  cases mid with
  | ok mid => exact ⟨before, mid, after, hsplit, hfirst, hrest⟩
  | err error => cases (ends_lift.mp hrest).2
  | panic => cases (ends_lift.mp hrest).2

theorem ends_lift_bind {x : Outcome WispError α} :
    Ends (lift x >>= rest) inputs (.ok value) ↔
      ∃ a, x = .ok a ∧ Ends (rest a) inputs (.ok value) := by
  constructor
  · intro h
    cases x with
    | ok a => exact ⟨a, rfl, h⟩
    | err error => cases (ends_lift.mp h).2
    | panic => cases (ends_lift.mp h).2
  · rintro ⟨a, rfl, h⟩
    exact h

theorem ends_send_bind {message : Bytes} {rest : Unit → Handshake β} :
    Ends (send message >>= rest) inputs (.ok value) ↔
      Ends (rest ()) inputs (.ok value) := by
  constructor
  · intro h
    obtain ⟨answer, hrest⟩ := Session.Ends.of_send h
    cases answer with
    | ok answer => exact hrest
    | error error => cases (ends_lift.mp hrest).2
  · intro h
    exact Session.Ends.send (.ok () : Except WispError Unit) h

theorem ends_nextErroring_bind {rest : Bytes → Handshake β} :
    Ends (nextErroring >>= rest) inputs (.ok value) ↔
      ∃ message after, inputs = some (.ok message) :: after ∧
        Ends (rest message) after (.ok value) := by
  constructor
  · intro h
    obtain ⟨input, after, rfl, hrest⟩ := Session.Ends.of_recv h
    rcases input with _ | error | message
    · cases (ends_lift.mp hrest).2
    · cases (ends_lift.mp hrest).2
    · exact ⟨message, after, rfl, hrest⟩
  · rintro ⟨message, after, rfl, h⟩
    exact Session.Ends.recv h

end Handshake

section Multiplexor

variable {E B : Type} [ProtocolExtension E]

/-- A multiplexor with its actor, which first handles the packet that a v1
peer opened with. -/
structure Multiplexor (E : Type) where
  downgraded : Bool
  supportedExtensions : List E
  inner : MuxInner
  packet : Option Packet

namespace Multiplexor

def create [HasUdp E] (handshake : Handshake (WispHandshakeResult E))
    (actor : Actor) : Handshake (Multiplexor E) := do
  let handshakeResult ← handshake
  let (extensions, extraPacket) := handshakeResult.kind.intoParts
  pure ⟨handshakeResult.downgraded, extensions,
    MuxInner.new actor (flowStreamTypes extensions) handshakeResult.bufferSize,
    extraPacket⟩

/-- `Multiplexor::<ServerImpl<W>, W>::new`. -/
def newServer [HasUdp E] [ProtocolExtensionBuilder B E] (bufferSize : UInt32)
    (v2 : Option (WispV2Handshake B)) : Handshake (Multiplexor E) :=
  create (ServerImpl.handshake bufferSize v2) (.server .unbounded)

/-- Where an extension is missing the multiplexor is closed; `closed` is how
this turned out. -/
def withRequiredExtensions (closed : Outcome WispError Unit)
    (mux : Multiplexor E) (extensions : List UInt8) :
    Outcome WispError (Multiplexor E) :=
  match extensions.filter fun id =>
      !(extensionIds mux.supportedExtensions).contains id with
  | [] => .ok mux
  | unsupported => closed >>= fun _ => .err (.extensionsNotSupported unsupported)

theorem withRequiredExtensions_eq_ok {closed : Outcome WispError Unit}
    {mux usable : Multiplexor E} {extensions : List UInt8}
    (h : mux.withRequiredExtensions closed extensions = .ok usable) :
    usable = mux ∧
      ∀ id ∈ extensions, id ∈ extensionIds mux.supportedExtensions := by
  rw [withRequiredExtensions] at h
  split at h
  · next hfilter =>
      refine ⟨(Outcome.ok.inj h).symm, fun id hid => ?_⟩
      have hkept := (List.filter_eq_nil_iff.mp hfilter) id hid
      simpa using hkept
  · cases closed <;> cases h

end Multiplexor

end Multiplexor

section Calls

variable {E B : Type} [ProtocolExtensionBuilder B E]

def BuilderCall.result (role : Role) (call : BuilderCall B) :
    Outcome WispError E :=
  (buildFromBytes call.builder call.bytes role).2

/-- An INFO packet that was accepted had all its calls succeed, and has their
results as its extensions. -/
theorem results_of_buildEntries {role : Role} {builders : List B}
    {entries : List (UInt8 × Bytes)} {built : List B × List E}
    (h : InfoPacket.buildEntries role builders entries = .ok built) :
    (builderCalls role builders entries).map (BuilderCall.result role) =
      built.2.map .ok := by
  induction entries generalizing builders built with
  | nil =>
      cases h
      rfl
  | cons entry rest ih =>
      obtain ⟨id, payload⟩ := entry
      rw [InfoPacket.buildEntries] at h
      rw [builderCalls]
      cases hfind : findBuilder id builders with
      | none =>
          rw [hfind] at h
          exact ih h
      | some found =>
          obtain ⟨before, builder, after⟩ := found
          rw [hfind] at h
          simp only [Outcome.bind_eq_ok] at h
          obtain ⟨extension, hbuilt, next, hnext, hpair⟩ := h
          cases hpair
          simp only [hbuilt, Outcome.isOk, if_true, List.map_cons, ih hnext,
            BuilderCall.result]

/-- A builder is only called on an entry with its own id. -/
theorem entry_of_mem_builderCalls {role : Role} {builders : List B}
    {entries : List (UInt8 × Bytes)} {call : BuilderCall B}
    (h : call ∈ builderCalls role builders entries) :
    (ProtocolExtensionBuilder.getId call.builder, call.bytes) ∈ entries := by
  induction entries generalizing builders with
  | nil => cases h
  | cons entry rest ih =>
      obtain ⟨id, payload⟩ := entry
      rw [builderCalls] at h
      cases hfind : findBuilder id builders with
      | none =>
          rw [hfind] at h
          exact List.mem_cons_of_mem _ (ih h)
      | some found =>
          obtain ⟨before, builder, after⟩ := found
          rw [hfind] at h
          rcases List.mem_cons.mp h with rfl | hrest
          · rw [(findBuilder_eq_some hfind).2]
            exact List.mem_cons_self
          · split at hrest
            · exact List.mem_cons_of_mem _ (ih hrest)
            · cases hrest

theorem findBuilder_map_eq_find? (id : UInt8) (builders : List B) :
    (findBuilder id builders).map (fun found => found.2.1) =
      builders.find? (ProtocolExtensionBuilder.getId · = id) := by
  induction builders with
  | nil => rfl
  | cons head tail ih =>
      by_cases hid : ProtocolExtensionBuilder.getId head = id
      · simp [findBuilder, hid]
      · simp only [findBuilder, hid, if_false, Option.map_map,
          List.find?_cons, decide_false, ← ih]
        rfl

end Calls

section Required

variable {E B : Type} [ProtocolExtension E] [ProtocolExtensionBuilder B E]

/-- Of a connection that received these inputs: the peer's first message is an
INFO packet, a builder with this id is left after the middleware and accepted
an entry of the packet, and no builder refused one. -/
def Accepted (v2 : Option (WispV2Handshake B))
    (inputs : List (Option (Except WispError Bytes))) (id : UInt8) : Prop :=
  ∃ handshake message body remaining, v2 = some handshake ∧
    inputs = [some (.ok message)] ∧ infoBody message = some body ∧
    handshake.closure (buildToExtensions .server handshake.builders).1 =
      .ok remaining ∧
    id ∈ builderIds remaining ∧
    (∃ call ∈ builderCalls .server remaining (InfoPacket.entries body),
      (id, call.bytes) ∈ InfoPacket.entries body ∧
        ProtocolExtensionBuilder.getId call.builder = id ∧
        ∃ extension, call.result .server = .ok extension) ∧
    ∀ call ∈ builderCalls .server remaining (InfoPacket.entries body),
      ∃ extension, call.result .server = .ok extension

namespace Handshake

variable {inputs : List (Option (Except WispError Bytes))}

theorem ends_sendInfoPacket_bind {β : Type} {value : β} {builders : List B}
    {role : Role} {rest : List B → Handshake β}
    (h : Ends (sendInfoPacket builders role >>= rest) inputs (.ok value)) :
    Ends (rest (buildToExtensions role builders).1) inputs (.ok value) := by
  simp only [sendInfoPacket, bind_assoc, pure_bind] at h
  obtain ⟨extensions, -, hencode⟩ := ends_lift_bind.mp h
  obtain ⟨packet, -, hsend⟩ := ends_lift_bind.mp hencode
  exact ends_send_bind.mp hsend

/-- How a server answered its client when it did not fail. -/
theorem ends_answer {bufferSize : UInt32} {builders : List B}
    {message : Bytes} {result : WispHandshakeResult E}
    (h : Ends (ServerImpl.answer bufferSize builders message) inputs
      (.ok result)) :
    inputs = [] ∧
      ((∃ info left,
          MaybeInfoPacket.decode message builders .server =
            .ok (.info info, left) ∧
          result = ⟨.v2 (getSupportedExtensions info.extensions left), false,
            bufferSize⟩) ∨
        ∃ packet, result = ⟨.v1 (some packet), true, bufferSize⟩) := by
  rw [ServerImpl.answer] at h
  obtain ⟨⟨packet, left⟩, hdecoded, hanswer⟩ := ends_lift_bind.mp h
  cases packet with
  | info info =>
      simp only [handleHandshake_eq, pure_bind] at hanswer
      have hsent := ends_send_bind.mp hanswer
      obtain ⟨rfl, rfl⟩ := ends_pure_ok.mp hsent
      exact ⟨rfl, .inl ⟨info, left, hdecoded, rfl⟩⟩
  | packet packet =>
      obtain ⟨rfl, rfl⟩ := ends_pure_ok.mp hanswer
      exact ⟨rfl, .inr ⟨packet, rfl⟩⟩

/-- How a server handshake went when it did not fail. -/
theorem ends_serverHandshake {bufferSize : UInt32}
    {v2 : Option (WispV2Handshake B)} {result : WispHandshakeResult E}
    (h : Ends (ServerImpl.handshake bufferSize v2) inputs (.ok result)) :
    (v2 = none ∧ result = ⟨.v1 none, false, bufferSize⟩) ∨
      ∃ handshake message remaining, v2 = some handshake ∧
        inputs = [some (.ok message)] ∧
        handshake.closure (buildToExtensions .server handshake.builders).1 =
          .ok remaining ∧
        ((∃ info left,
            MaybeInfoPacket.decode message remaining .server =
              .ok (.info info, left) ∧
            result = ⟨.v2 (getSupportedExtensions info.extensions left), false,
              bufferSize⟩) ∨
          ∃ packet, result = ⟨.v1 (some packet), true, bufferSize⟩) := by
  cases v2 with
  | none =>
      have hsent := ends_send_bind.mp h
      exact .inl ⟨rfl, (ends_pure_ok.mp hsent).2⟩
  | some handshake =>
      have hclosure := ends_sendInfoPacket_bind h
      obtain ⟨remaining, hremaining, hnext⟩ := ends_lift_bind.mp hclosure
      obtain ⟨message, after, rfl, hanswer⟩ := ends_nextErroring_bind.mp hnext
      obtain ⟨rfl, hresult⟩ := ends_answer hanswer
      exact .inr ⟨handshake, message, remaining, rfl, rfl, hremaining, hresult⟩

end Handshake

theorem ends_of_usable [HasUdp E] {bufferSize : UInt32}
    {v2 : Option (WispV2Handshake B)}
    {inputs : List (Option (Except WispError Bytes))} {required : List UInt8}
    {closed : Multiplexor E → Outcome WispError Unit} {usable : Multiplexor E}
    (hended : Handshake.Ends
      (Multiplexor.newServer bufferSize v2 >>= fun mux => Handshake.lift
        (mux.withRequiredExtensions (closed mux) required))
      inputs (.ok usable)) :
    Handshake.Ends (Multiplexor.newServer bufferSize v2) inputs (.ok usable) ∧
      ∀ id ∈ required, id ∈ extensionIds usable.supportedExtensions := by
  obtain ⟨before, mux, after, rfl, hnew, hrequire⟩ :=
    Handshake.ends_bind hended
  obtain ⟨rfl, husable⟩ := Handshake.ends_lift.mp hrequire
  obtain ⟨rfl, hsupported⟩ :=
    Multiplexor.withRequiredExtensions_eq_ok husable.symm
  rw [List.append_nil]
  exact ⟨hnew, hsupported⟩

variable [LawfulBuilders B E]

/-- The first call on an id is of the first builder with this id, in the state
in which the decoder started. -/
theorem first_of_mem_builderCalls {role : Role} {builders : List B}
    {entries : List (UInt8 × Bytes)} {call : BuilderCall B}
    (h : call ∈ builderCalls role builders entries) :
    ∃ first ∈ builderCalls role builders entries,
      builders.find? (ProtocolExtensionBuilder.getId · =
        ProtocolExtensionBuilder.getId call.builder) = some first.builder := by
  induction entries generalizing builders with
  | nil => cases h
  | cons entry rest ih =>
      obtain ⟨id, payload⟩ := entry
      rw [builderCalls] at h ⊢
      cases hfind : findBuilder id builders with
      | none =>
          rw [hfind] at h
          exact ih h
      | some found =>
          obtain ⟨before, builder, after⟩ := found
          rw [hfind] at h
          obtain ⟨hsplit, hbuilder⟩ := findBuilder_eq_some hfind
          by_cases hid : ProtocolExtensionBuilder.getId call.builder = id
          · have hfirst := findBuilder_map_eq_find? id builders
            rw [hfind, Option.map_some] at hfirst
            exact ⟨⟨builder, payload⟩, List.mem_cons_self, by
              rw [hid, ← hfirst]⟩
          · have hne : call ≠ ⟨builder, payload⟩ := by
              rintro rfl
              exact hid hbuilder
            have hrest := (List.mem_cons.mp h).resolve_left hne
            cases hbuilt : (buildFromBytes builder payload role).2 with
            | ok extension =>
                simp only [hbuilt, Outcome.isOk, if_true] at hrest ⊢
                obtain ⟨first, hmem, hfound⟩ := ih hrest
                refine ⟨first, List.mem_cons_of_mem _ hmem, ?_⟩
                rw [← hfound, hsplit]
                have hother :
                    ¬ id = ProtocolExtensionBuilder.getId call.builder :=
                  fun heq => hid heq.symm
                simp only [List.find?_append, List.find?_cons,
                  LawfulBuilders.getId_buildFromBytes, hbuilder, hother,
                  decide_false]
            | err error =>
                simp [hbuilt, Outcome.isOk] at hrest
            | panic =>
                simp [hbuilt, Outcome.isOk] at hrest

/-- Every supported extension of a v2 connection was accepted. -/
theorem accepted_of_supported {message : Bytes} {remaining left : List B}
    {info : InfoPacket E} {handshake : WispV2Handshake B} {id : UInt8}
    (hremaining : handshake.closure
      (buildToExtensions .server handshake.builders).1 = .ok remaining)
    (hdecoded : MaybeInfoPacket.decode message remaining .server =
      .ok (.info info, left))
    (hid : id ∈ extensionIds (getSupportedExtensions info.extensions left)) :
    Accepted (some handshake) [some (.ok message)] id := by
  obtain ⟨body, hbody, hloop⟩ := MaybeInfoPacket.decode_eq_info hdecoded
  have hentries := InfoPacket.decodeExtensions_eq_ok hloop
  have hresults := results_of_buildEntries hentries
  obtain ⟨hbuilt, hleft⟩ := mem_getSupportedExtensions.mp hid
  rw [(ids_of_buildEntries hentries).1] at hleft
  have hcalls : ∀ call ∈ builderCalls .server remaining
      (InfoPacket.entries body),
      ∃ extension, call.result .server = .ok extension := by
    intro call hcall
    have hmem : call.result .server ∈ info.extensions.map .ok := by
      rw [← hresults]
      exact List.mem_map_of_mem hcall
    obtain ⟨extension, -, hextension⟩ := List.mem_map.mp hmem
    exact ⟨extension, hextension.symm⟩
  obtain ⟨extension, hextension, rfl⟩ := List.mem_map.mp hbuilt
  have hmem : .ok extension ∈ (builderCalls .server remaining
      (InfoPacket.entries body)).map (BuilderCall.result .server) := by
    rw [hresults]
    exact List.mem_map_of_mem hextension
  obtain ⟨call, hcall, hresult⟩ := List.mem_map.mp hmem
  have hentry := entry_of_mem_builderCalls hcall
  have hcallee := (LawfulBuilders.getId_of_buildFromBytes hresult).symm
  rw [hcallee] at hentry
  exact ⟨handshake, message, body, remaining, rfl, rfl, hbody, hremaining,
    hleft, ⟨call, hcall, hentry, hcallee, extension, hresult⟩, hcalls⟩

/-- Where the first builder with this id stood before the INFO packet came,
it is the one that accepted an entry. -/
theorem Accepted.of_find {builders : List B} {builder : B}
    {inputs : List (Option (Except WispError Bytes))} {id : UInt8}
    (h : Accepted (some (.new builders)) inputs id)
    (hfind : (buildToExtensions .server builders).1.find?
      (ProtocolExtensionBuilder.getId · = id) = some builder) :
    ∃ message body payload extension, inputs = [some (.ok message)] ∧
      infoBody message = some body ∧
      (id, payload) ∈ InfoPacket.entries body ∧
      (buildFromBytes builder payload .server).2 = .ok extension := by
  obtain ⟨handshake, message, body, remaining, hv2, hinputs, hbody, hclosure,
    -, ⟨call, hcall, -, hid, -⟩, hcalls⟩ := h
  cases hv2
  cases hclosure
  obtain ⟨first, hfirst, hfound⟩ := first_of_mem_builderCalls hcall
  rw [hid] at hfound
  obtain rfl := Option.some.inj (hfind.symm.trans hfound)
  obtain ⟨extension, hresult⟩ := hcalls first hfirst
  have hentry := entry_of_mem_builderCalls hfirst
  have hfirstId : ProtocolExtensionBuilder.getId first.builder = id := by
    simpa using List.find?_some hfind
  rw [hfirstId] at hentry
  exact ⟨message, body, first.bytes, extension, hinputs, hbody, hentry,
    hresult⟩

variable [HasUdp E] {bufferSize : UInt32} {v2 : Option (WispV2Handshake B)}
  {inputs : List (Option (Except WispError Bytes))}

/-- Every extension of a new server was accepted, or is implied by v1. -/
theorem accepted_of_newServer {mux : Multiplexor E}
    (hended : Handshake.Ends (Multiplexor.newServer bufferSize v2) inputs
      (.ok mux)) {id : UInt8}
    (hid : id ∈ extensionIds mux.supportedExtensions) :
    ((v2 = none ∨ mux.downgraded = true) ∧ id = 0x01) ∨
      Accepted v2 inputs id := by
  simp only [Multiplexor.newServer, Multiplexor.create] at hended
  obtain ⟨before, result, after, rfl, hhandshake, hpure⟩ :=
    Handshake.ends_bind hended
  obtain ⟨rfl, rfl⟩ := Handshake.ends_pure_ok.mp hpure
  rw [List.append_nil]
  rcases Handshake.ends_serverHandshake hhandshake with ⟨rfl, rfl⟩ |
    ⟨handshake, message, remaining, rfl, rfl, hremaining, hresult⟩
  · left
    refine ⟨.inl rfl, ?_⟩
    simpa [WispHandshakeResultKind.intoParts, extensionIds,
      HasUdp.getId_udp] using hid
  · rcases hresult with ⟨info, left, hdecoded, rfl⟩ | ⟨packet, rfl⟩
    · right
      exact accepted_of_supported hremaining hdecoded hid
    · left
      refine ⟨.inr rfl, ?_⟩
      simpa [WispHandshakeResultKind.intoParts, extensionIds,
        HasUdp.getId_udp] using hid

/-- A multiplexor is only usable with its required extensions accepted, or
implied by v1. -/
theorem required_of_usable {required : List UInt8}
    {closed : Multiplexor E → Outcome WispError Unit} {usable : Multiplexor E}
    (hended : Handshake.Ends
      (Multiplexor.newServer bufferSize v2 >>= fun mux => Handshake.lift
        (mux.withRequiredExtensions (closed mux) required))
      inputs (.ok usable)) :
    ∀ id ∈ required,
      ((v2 = none ∨ usable.downgraded = true) ∧ id = 0x01) ∨
        Accepted v2 inputs id := by
  intro id hid
  obtain ⟨hnew, hsupported⟩ := ends_of_usable hended
  exact accepted_of_newServer hnew (hsupported id hid)

end Required

/-- The INFO packet of a client that has the UDP extension. -/
def udpInfo : Bytes :=
  InfoPacket.header wispVersion ++ InfoPacket.encodeEntries [(0x01, [])]

theorem required_of_udp :
    Accepted (some (.new ([.udp] : List PlainBuilder)))
      [some (.ok udpInfo)] 0x01 := by
  have hfits : ∀ entry ∈ [((0x01, []) : UInt8 × Bytes)],
      InfoPacket.FitsLength entry.2 := by
    simp [InfoPacket.FitsLength]
  have hdecoded : MaybeInfoPacket.decode udpInfo ([.udp] : List PlainBuilder)
      .server = .ok (.info ⟨wispVersion, [.udp]⟩, [.udp]) := by
    rw [udpInfo, InfoPacket.decode_header,
      InfoPacket.decodeExtensions_encodeEntries hfits]
    rfl
  let mux : Multiplexor AnyProtocolExtension :=
    ⟨false, [.udp], .new (.server .unbounded)
      (flowStreamTypes ([.udp] : List AnyProtocolExtension)) 128, none⟩
  have hended : Handshake.Ends
      (Multiplexor.newServer 128 (some (.new ([.udp] : List PlainBuilder))) >>=
        fun mux => Handshake.lift
          (mux.withRequiredExtensions (.err .wsImplSocketClosed) [0x01]))
      [some (.ok udpInfo)] (.ok mux) := by
    simp only [Multiplexor.newServer, Multiplexor.create,
      ServerImpl.handshake, WispV2Handshake.new, ServerImpl.answer,
      sendInfoPacket, Handshake.bind_assoc, Handshake.pure_bind]
    refine Handshake.ends_lift_bind.mpr ⟨[.udp], rfl, ?_⟩
    refine Handshake.ends_lift_bind.mpr ⟨_, rfl, ?_⟩
    refine Handshake.ends_send_bind.mpr ?_
    refine Handshake.ends_lift_bind.mpr ⟨[.udp], rfl, ?_⟩
    refine Handshake.ends_nextErroring_bind.mpr ⟨udpInfo, [], rfl, ?_⟩
    refine Handshake.ends_lift_bind.mpr ⟨_, hdecoded, ?_⟩
    simp only [handleHandshake_eq, Handshake.bind_assoc, Handshake.pure_bind]
    exact Handshake.ends_send_bind.mpr (Session.Ends.ret _)
  rcases required_of_usable hended 0x01 List.mem_cons_self with
    ⟨hv1 | hv1, -⟩ | haccepted
  · cases hv1
  · cases hv1
  · exact haccepted

end Epoxy
