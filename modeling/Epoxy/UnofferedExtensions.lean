/-
Extensions that only one side has.  A client sends an entry for every builder
of its own, whatever the server offered; an authentication builder that was
not handed the server's payload refuses to make one, and the handshake of the
client fails with it.
-/
import Epoxy.BuilderFeeding
import Epoxy.HandshakeCompletion

namespace Epoxy

open ActionMachine ByteCursor InfoPacket SessionNetwork
open ProtocolExtensionBuilder (buildFromBytes buildToExtension)

section Offers

variable {E B : Type} [ProtocolExtension E] [ProtocolExtensionBuilder B E]

/-- The builder makes this entry of the INFO packet. -/
def Offers (role : Role) (builder : B) (entry : UInt8 × Bytes) : Prop :=
  ∃ extension, (buildToExtension builder role).2 = .ok extension ∧
    Encodes extension entry

theorem wireEntries_iff {extensions : List E}
    {entries : List (UInt8 × Bytes)} :
    wireEntries extensions = .ok entries ↔
      List.Forall₂ Encodes extensions entries := by
  refine ⟨fun h => ?_, wireEntries_eq_ok⟩
  induction extensions generalizing entries with
  | nil =>
      cases h
      exact .nil
  | cons extension rest ih =>
      simp only [wireEntries, Outcome.bind_eq_ok] at h
      obtain ⟨payload, hpayload, others, hothers, hentries⟩ := h
      cases hentries
      exact .cons ⟨rfl, hpayload⟩ (ih hothers)

omit [ProtocolExtension E] in
theorem buildToExtensions_cons {role : Role} {builder : B} {rest : List B}
    {extension : E}
    (hbuilt : (buildToExtension builder role).2 = .ok extension) :
    (buildToExtensions role (builder :: rest)).1 =
      (buildToExtension builder role).1 :: (buildToExtensions role rest).1 := by
  rw [buildToExtensions]
  cases hpair : buildToExtension builder role with
  | mk left built =>
      rw [hpair] at hbuilt
      dsimp only at hbuilt ⊢
      rw [hbuilt]

omit [ProtocolExtension E] in
/-- The builds are made in order, until one fails. -/
theorem extensions_of_cons (role : Role) (builder : B) (rest : List B) :
    (buildToExtensions role (builder :: rest)).2 =
      (buildToExtension builder role).2 >>= fun extension =>
        (buildToExtensions role rest).2 >>= fun others =>
          .ok (extension :: others) := by
  rw [buildToExtensions]
  cases buildToExtension builder role with
  | mk left built =>
      cases built with
      | ok extension => exact Outcome.map_eq_bind _ _
      | err error => rfl
      | panic => rfl

/-- A side sends its packet if every builder makes its entry. -/
theorem sentEntries_iff {role : Role} {builders : List B}
    {entries : List (UInt8 × Bytes)} :
    sentEntries role builders = .ok entries ↔
      List.Forall₂ (Offers role) builders entries := by
  simp only [sentEntries, Outcome.bind_eq_ok, wireEntries_iff]
  induction builders generalizing entries with
  | nil => simp [buildToExtensions]
  | cons builder rest ih =>
      simp only [extensions_of_cons, Outcome.bind_eq_ok, Outcome.ok.injEq,
        List.forall₂_cons_left_iff, ← ih]
      constructor
      · rintro ⟨_, ⟨extension, hbuilt, others, hothers, rfl⟩, hencoded⟩
        obtain ⟨entry, left, hentry, hleft, rfl⟩ :=
          List.forall₂_cons_left_iff.mp hencoded
        exact ⟨entry, left, ⟨extension, hbuilt, hentry⟩,
          ⟨others, hothers, hleft⟩, rfl⟩
      · rintro ⟨entry, left, ⟨extension, hbuilt, hentry⟩,
          ⟨others, hothers, hleft⟩, rfl⟩
        exact ⟨extension :: others,
          ⟨extension, hbuilt, others, hothers, rfl⟩, .cons hentry hleft⟩

theorem builders_of_sentEntries {role : Role} {builders : List B}
    {entries : List (UInt8 × Bytes)}
    (hoffers : List.Forall₂ (Offers role) builders entries) :
    (buildToExtensions role builders).1 =
      builders.map fun builder => (buildToExtension builder role).1 := by
  induction hoffers with
  | nil => rfl
  | cons hhead _ ih =>
      obtain ⟨extension, hbuilt, -⟩ := hhead
      rw [buildToExtensions_cons hbuilt, ih]
      rfl

/-- A client that cannot make its packet fails on the server's. -/
theorem client_fails {server client : List B} {offered : List (UInt8 × Bytes)}
    {received : List B × List E} {error : WispError} (bufferSize : UInt32)
    (hoffered : sentEntries .server server = .ok offered)
    (hreceived : decodeExtensions .client client (encodeEntries offered) =
      .ok received)
    (hfailed : sentEntries .client received.1 = .err error) :
    ∃ net : HandshakeNetwork E,
      (Network.machine reliable).run
        (connection bufferSize (some server) (some client)) [.left, .right] =
          some net ∧
      net.right = .ret (.err error) := by
  have hclient : ClientImpl.answer .ok client (infoMessage offered) =
      Handshake.lift (.err error) := by
    simp only [ClientImpl.answer_info, hreceived, hfailed,
      Handshake.lift_ok_bind]
    rfl
  rw [connection_of_offered bufferSize hoffered]
  simp only [Network.machine, Machine.run_cons, Machine.run_nil,
    step_server_send, Option.bind_some, step_client_recv, hclient,
    List.nil_append]
  exact ⟨_, rfl, rfl⟩

end Offers

namespace AnyProtocolExtensionBuilder

variable {σ : Type} [CertCrates σ]

/-- The builders that a client is configured with, the authentication ones
with credentials. -/
inductive ForClient : AnyProtocolExtensionBuilder σ → Prop where
  | udp : ForClient .udp
  | motd : ForClient (.motd .client)
  | password (user password : String) :
      ForClient (.password (.clientBeforeServerInfo (some (user, password))))
  | certAuth (key : SigningKey σ) :
      ForClient (.certAuth (.clientBeforeChallenge (some key)))

/-- Authentication answers what the other side sent. -/
def NeedsOffer : AnyProtocolExtensionBuilder σ → Prop
  | .password _ => True
  | .certAuth _ => True
  | _ => False

/-- The extension of the two builders gets through the handshake: each build
on the way succeeds, and the client's payload fits its length. -/
def Succeeds (server client : AnyProtocolExtensionBuilder σ) : Prop :=
  ∃ offer received answer accepted,
    Offers .server server (getId server, offer) ∧
    (client.buildFromBytes offer .client).2 = .ok received ∧
    Offers .client (client.buildFromBytes offer .client).1
      (getId client, answer) ∧
    FitsLength answer ∧
    ((server.buildToExtension .server).1.buildFromBytes answer .server).2 =
      .ok accepted

/-- Without an offer an authentication builder makes nothing, and the others
make their empty entry all the same. -/
theorem offers_of_forClient {builder : AnyProtocolExtensionBuilder σ}
    (hclient : ForClient builder) :
    (NeedsOffer builder → ∀ entry, ¬ Offers .client builder entry) ∧
      (¬ NeedsOffer builder →
        Offers .client builder (getId builder, [])) := by
  cases hclient with
  | udp => exact ⟨fun h => h.elim, fun _ => ⟨.udp, rfl, rfl, rfl⟩⟩
  | motd => exact ⟨fun h => h.elim, fun _ => ⟨.motd ⟨.client, ""⟩, rfl, rfl, rfl⟩⟩
  | password user password =>
      refine ⟨fun _ entry => ?_, fun h => absurd trivial h⟩
      rintro ⟨extension, hbuilt, -⟩
      cases hbuilt
  | certAuth key =>
      refine ⟨fun _ entry => ?_, fun h => absurd trivial h⟩
      rintro ⟨extension, hbuilt, -⟩
      cases hbuilt

omit [CertCrates σ] in
/-- The id says whether an offer is needed. -/
theorem needsOffer_of_getId {builder other : AnyProtocolExtensionBuilder σ}
    (hid : getId builder = getId other) (hneeds : NeedsOffer builder) :
    NeedsOffer other := by
  cases builder with
  | password inner => cases other <;> first | trivial | cases hid
  | certAuth inner => cases other <;> first | trivial | cases hid
  | udp => exact hneeds.elim
  | motd => exact hneeds.elim
  | wispnet => exact hneeds.elim
  | twisp => exact hneeds.elim

/-- The other extensions of clients are built from any payload. -/
theorem accepts_of_getId {builder other : AnyProtocolExtensionBuilder σ}
    (hclient : ForClient other) (hid : getId builder = getId other)
    (hneeds : ¬ NeedsOffer builder) (payloads : List Bytes) :
    Accepts .server builder payloads := by
  have hsame : ∀ payload,
      (builder.buildFromBytes payload .server).1 = builder ∧
        ∃ extension,
          (builder.buildFromBytes payload .server).2 = .ok extension := by
    intro payload
    cases hclient with
    | udp =>
        cases builder <;> first | exact ⟨rfl, _, rfl⟩ | cases hid
    | motd =>
        cases builder <;> first | exact ⟨rfl, _, rfl⟩ | cases hid
    | password user password =>
        exact absurd (needsOffer_of_getId hid.symm trivial) hneeds
    | certAuth key =>
        exact absurd (needsOffer_of_getId hid.symm trivial) hneeds
  induction payloads with
  | nil => trivial
  | cons payload rest ih =>
      refine ⟨(hsame payload).2, ?_⟩
      change Accepts .server (builder.buildFromBytes payload .server).1 rest
      rw [(hsame payload).1]
      exact ih

/-- Every authentication builder of the client is the first of its id, and the
id is among these. -/
def OnlyOffered (ids : List UInt8)
    (client : List (AnyProtocolExtensionBuilder σ)) : Prop :=
  ∀ before builder after, client = before ++ builder :: after →
    NeedsOffer builder →
      getId builder ∈ ids ∧ getId builder ∉ builderIds before

theorem onlyOffered_cons {entries : List (UInt8 × Bytes)}
    {head : AnyProtocolExtensionBuilder σ}
    {tail : List (AnyProtocolExtensionBuilder σ)} :
    OnlyOffered (entries.map Prod.fst) (head :: tail) ↔
      (NeedsOffer head → getId head ∈ entries.map Prod.fst) ∧
        OnlyOffered ((withoutId (getId head) entries).map Prod.fst) tail := by
  have hmem : ∀ id, id ∈ (withoutId (getId head) entries).map Prod.fst ↔
      id ∈ entries.map Prod.fst ∧ id ≠ getId head := by
    intro id
    simp only [withoutId, List.mem_map, List.mem_filter, decide_eq_true_eq]
    constructor
    · rintro ⟨entry, ⟨hentry, hne⟩, rfl⟩
      exact ⟨⟨entry, hentry, rfl⟩, hne⟩
    · rintro ⟨⟨entry, hentry, rfl⟩, hne⟩
      exact ⟨entry, ⟨hentry, hne⟩, rfl⟩
  constructor
  · intro honly
    refine ⟨fun hneeds => (honly [] head tail rfl hneeds).1, ?_⟩
    intro before builder after hsplit hneeds
    obtain ⟨hoffered, hfirst⟩ := honly (head :: before) builder after
      (congrArg (head :: ·) hsplit) hneeds
    simp only [builderIds, List.map_cons, List.mem_cons, not_or] at hfirst
    exact ⟨(hmem _).mpr ⟨hoffered, hfirst.1⟩, hfirst.2⟩
  · rintro ⟨hhead, honly⟩ before builder after hsplit hneeds
    cases before with
    | nil =>
        cases hsplit
        exact ⟨hhead hneeds, List.not_mem_nil⟩
    | cons first before =>
        cases hsplit
        obtain ⟨hoffered, hfirst⟩ := honly before builder after rfl hneeds
        obtain ⟨hoffered, hne⟩ := (hmem _).mp hoffered
        refine ⟨hoffered, ?_⟩
        simp only [builderIds, List.map_cons, List.mem_cons, not_or]
        exact ⟨hne, hfirst⟩

/-- A builder of a client that was fed makes an entry with a good payload, and
so does one that needs no offer. -/
theorem exists_answered {entries : List (UInt8 × Bytes)}
    {client : List (AnyProtocolExtensionBuilder σ)}
    (Good : AnyProtocolExtensionBuilder σ → Bytes → Prop)
    (hclient : ∀ builder ∈ client, ForClient builder)
    (hnodup : (entries.map Prod.fst).Nodup)
    (hfed : ∀ builder ∈ client, ∀ payload,
      (getId builder, payload) ∈ entries → ∃ answer,
        Offers .client (builder.buildFromBytes payload .client).1
          (getId builder, answer) ∧ Good builder answer)
    (hunfed : ∀ builder ∈ client, ¬ NeedsOffer builder → Good builder [])
    (honly : OnlyOffered (entries.map Prod.fst) client) :
    ∃ answered,
      List.Forall₂ (Offers .client) (fedAll .client entries client)
        answered ∧
      List.Forall₂ (fun builder entry => entry.1 = getId builder ∧
        Good builder entry.2) client answered := by
  induction client generalizing entries with
  | nil => exact ⟨[], .nil, .nil⟩
  | cons head tail ih =>
      obtain ⟨hneeded, hrest⟩ := onlyOffered_cons.mp honly
      obtain ⟨answered, hoffers, hgood⟩ := ih
        (fun builder hbuilder =>
          hclient builder (List.mem_cons_of_mem head hbuilder))
        (nodup_withoutId hnodup (getId head))
        (fun builder hbuilder payload hmem =>
          hfed builder (List.mem_cons_of_mem head hbuilder) payload
            (List.mem_of_mem_filter hmem))
        (fun builder hbuilder =>
          hunfed builder (List.mem_cons_of_mem head hbuilder)) hrest
      obtain ⟨answer, hhead, hanswer⟩ : ∃ answer,
          Offers .client
            (fed .client head (payloadsFor (getId head) entries))
            (getId head, answer) ∧ Good head answer := by
        rcases payloadsFor_cases (List.nodup_iff_count_le_one.mp hnodup
            (getId head)) with hnone | ⟨payload, hmem, hone⟩
        · rw [hnone]
          have hneeds : ¬ NeedsOffer head := fun hneeds =>
            payloadsFor_eq_nil.mp hnone (hneeded hneeds)
          exact ⟨[], (offers_of_forClient
              (hclient head List.mem_cons_self)).2 hneeds,
            hunfed head List.mem_cons_self hneeds⟩
        · rw [hone]
          exact hfed head List.mem_cons_self payload hmem
      exact ⟨(getId head, answer) :: answered, .cons hhead hoffers,
        .cons ⟨rfl, hanswer⟩ hgood⟩

/-- A client whose builders all make their entries had them offered. -/
theorem onlyOffered_of_answered {entries answered : List (UInt8 × Bytes)}
    {client : List (AnyProtocolExtensionBuilder σ)}
    (hclient : ∀ builder ∈ client, ForClient builder)
    (hoffers : List.Forall₂ (Offers .client)
      (fedAll .client entries client) answered) :
    OnlyOffered (entries.map Prod.fst) client := by
  induction client generalizing entries answered with
  | nil =>
      intro before builder after hsplit
      simp at hsplit
  | cons head tail ih =>
      obtain ⟨entry, left, hhead, htail, -⟩ :=
        List.forall₂_cons_left_iff.mp hoffers
      refine onlyOffered_cons.mpr ⟨fun hneeds => ?_, ih
        (fun builder hbuilder =>
          hclient builder (List.mem_cons_of_mem head hbuilder)) htail⟩
      by_contra habsent
      have hunfed : Offers .client
          (fed .client head (payloadsFor (getId head) entries)) entry := hhead
      rw [payloadsFor_eq_nil.mpr habsent] at hunfed
      exact (offers_of_forClient (hclient head List.mem_cons_self)).1 hneeds
        entry hunfed

/-- An authentication id stands for at most one builder. -/
theorem count_le_one_of_onlyOffered {ids : List UInt8}
    {client : List (AnyProtocolExtensionBuilder σ)}
    (honly : OnlyOffered ids client)
    {builder : AnyProtocolExtensionBuilder σ} (hneeds : NeedsOffer builder) :
    (builderIds client).count (getId builder) ≤ 1 := by
  have hfirst : ∀ before other after, client = before ++ other :: after →
      getId other = getId builder → getId builder ∉ builderIds before := by
    intro before other after hsplit hid
    rw [← hid]
    exact (honly before other after hsplit
      (needsOffer_of_getId hid.symm hneeds)).2
  clear honly
  induction client with
  | nil => exact Nat.zero_le 1
  | cons head tail ih =>
      change (getId head :: builderIds tail).count (getId builder) ≤ 1
      rw [List.count_cons]
      by_cases hid : getId head = getId builder
      · have hnone : getId builder ∉ builderIds tail := by
          intro hmem
          obtain ⟨other, hother, hsame⟩ := List.mem_map.mp hmem
          obtain ⟨before, after, rfl⟩ := List.append_of_mem hother
          exact hfirst (head :: before) other after rfl hsame
            (List.mem_map.mpr ⟨head, List.mem_cons_self, hid⟩)
        simp [hid, List.count_eq_zero.mpr hnone]
      · have htail := ih fun before other after hsplit hsame hmem =>
          hfirst (head :: before) other after (congrArg (head :: ·) hsplit)
            hsame (List.mem_cons_of_mem _ hmem)
        simp only [beq_iff_eq, hid, if_false, Nat.add_zero]
        exact htail

/-- A server with distinct extensions, what it offers, and a client for whom
the extensions in common succeed. -/
structure Setting (server client : List (AnyProtocolExtensionBuilder σ))
    (offered : List (UInt8 × Bytes)) : Prop where
  distinct : (builderIds server).Nodup
  forClient : ∀ builder ∈ client, ForClient builder
  offers : sentEntries .server server = .ok offered
  fits : ∀ entry ∈ offered, FitsLength entry.2
  common : ∀ own ∈ server, ∀ other ∈ client, getId own = getId other →
    Succeeds own other

namespace Setting

variable {server client : List (AnyProtocolExtensionBuilder σ)}
  {offered : List (UInt8 × Bytes)}

theorem ids (h : Setting server client offered) :
    offered.map Prod.fst = builderIds server :=
  ids_of_sentEntries h.offers

theorem nodup (h : Setting server client offered) :
    (offered.map Prod.fst).Nodup := by
  rw [h.ids]
  exact h.distinct

/-- The server's builder that an entry is from. -/
theorem exists_own (h : Setting server client offered) {id : UInt8}
    {payload : Bytes} (hmem : (id, payload) ∈ offered) :
    ∃ own ∈ server, getId own = id ∧ Offers .server own (id, payload) := by
  have hoffers := sentEntries_iff.mp h.offers
  clear h
  induction hoffers with
  | nil => simp at hmem
  | @cons own entry rest entries hhead _ ih =>
      rcases List.mem_cons.mp hmem with rfl | hmem
      · refine ⟨own, List.mem_cons_self, ?_, hhead⟩
        obtain ⟨extension, hbuilt, hid, -⟩ := hhead
        exact (LawfulBuilders.getId_of_buildToExtension hbuilt).symm.trans hid
      · obtain ⟨found, hfound, hrest⟩ := ih hmem
        exact ⟨found, List.mem_cons_of_mem own hfound, hrest⟩

/-- A client's builder gets the payload that its extension succeeds with. -/
theorem succeeds (h : Setting server client offered)
    {builder : AnyProtocolExtensionBuilder σ} (hbuilder : builder ∈ client)
    {payload : Bytes} (hmem : (getId builder, payload) ∈ offered) :
    ∃ own ∈ server, getId own = getId builder ∧
      (∃ received,
        (builder.buildFromBytes payload .client).2 = .ok received) ∧
      ∃ answer accepted,
        Offers .client (builder.buildFromBytes payload .client).1
          (getId builder, answer) ∧
        FitsLength answer ∧
        ((own.buildToExtension .server).1.buildFromBytes answer .server).2 =
          .ok accepted := by
  obtain ⟨own, hown, hid, extension, hbuilt, -, hencoded⟩ := h.exists_own hmem
  obtain ⟨offer, received, answer, accepted, ⟨other, hother, -, hsame⟩,
    hreceived, hanswer, hfits, haccepted⟩ :=
    h.common own hown builder hbuilder hid
  obtain rfl : offer = payload := by
    rw [hbuilt] at hother
    cases hother
    rw [hencoded] at hsame
    exact (Outcome.ok.inj hsame).symm
  exact ⟨own, hown, hid, ⟨received, hreceived⟩, answer, accepted, hanswer,
    hfits, haccepted⟩

/-- What the client's builders make of the server's packet. -/
theorem exists_received (h : Setting server client offered) :
    ∃ received, buildEntries .client client offered =
      .ok (fedAll .client offered client, received) := by
  apply buildEntries_of_acceptsAll
  apply acceptsAll_of_entries h.nodup
  intro builder hbuilder payload hmem
  obtain ⟨own, -, -, hreceived, -⟩ := h.succeeds hbuilder hmem
  exact hreceived

/-- The server takes the payload, if it has the extension and needs to. -/
def Taken (server : List (AnyProtocolExtensionBuilder σ))
    (builder : AnyProtocolExtensionBuilder σ) (answer : Bytes) : Prop :=
  FitsLength answer ∧ ∀ own ∈ server, getId own = getId builder →
    NeedsOffer own → ∃ accepted,
      ((own.buildToExtension .server).1.buildFromBytes answer .server).2 =
        .ok accepted

theorem exists_answered (h : Setting server client offered)
    (honly : OnlyOffered (builderIds server) client) :
    ∃ answered,
      sentEntries .client (fedAll .client offered client) = .ok answered ∧
      List.Forall₂ (fun builder entry => entry.1 = getId builder ∧
        Taken server builder entry.2) client answered := by
  have hfed : ∀ builder ∈ client, ∀ payload,
      (getId builder, payload) ∈ offered → ∃ answer,
        Offers .client (builder.buildFromBytes payload .client).1
          (getId builder, answer) ∧ Taken server builder answer := by
    intro builder hbuilder payload hmem
    obtain ⟨own, hown, hid, -, answer, accepted, hanswer, hfits,
      haccepted⟩ := h.succeeds hbuilder hmem
    refine ⟨answer, hanswer, hfits, fun other hother hsame _ => ?_⟩
    obtain rfl : other = own := List.inj_on_of_nodup_map h.distinct hother
      hown (hsame.trans hid.symm)
    exact ⟨accepted, haccepted⟩
  have hunfed : ∀ builder ∈ client, ¬ NeedsOffer builder →
      Taken server builder [] := by
    intro builder hbuilder hneeds
    refine ⟨by simp [FitsLength], fun own _ hid hown => ?_⟩
    exact absurd (needsOffer_of_getId hid hown) hneeds
  rw [← h.ids] at honly
  obtain ⟨answered, hoffers, htaken⟩ :=
    AnyProtocolExtensionBuilder.exists_answered (Taken server) h.forClient
      h.nodup hfed hunfed honly
  exact ⟨answered, sentEntries_iff.mpr hoffers, htaken⟩

/-- The client's builder that an answer is from. -/
theorem exists_other {answered : List (UInt8 × Bytes)}
    (htaken : List.Forall₂ (fun builder entry => entry.1 = getId builder ∧
      Taken server builder entry.2) client answered)
    {id : UInt8} {payload : Bytes} (hmem : (id, payload) ∈ answered) :
    ∃ other ∈ client, id = getId other ∧ Taken server other payload := by
  induction htaken with
  | nil => simp at hmem
  | @cons other entry rest entries hhead _ ih =>
      rcases List.mem_cons.mp hmem with rfl | hmem
      · exact ⟨other, List.mem_cons_self, hhead⟩
      · obtain ⟨found, hfound, hrest⟩ := ih hmem
        exact ⟨found, List.mem_cons_of_mem other hfound, hrest⟩

/-- A builder of the server accepts the payloads that the client answers. -/
theorem accepts_answered (h : Setting server client offered)
    (honly : OnlyOffered (builderIds server) client)
    {answered : List (UInt8 × Bytes)}
    (hids : answered.map Prod.fst = builderIds client)
    (htaken : List.Forall₂ (fun builder entry => entry.1 = getId builder ∧
      Taken server builder entry.2) client answered)
    {own : AnyProtocolExtensionBuilder σ} (hown : own ∈ server) :
    Accepts .server (own.buildToExtension .server).1
      (payloadsFor (getId own) answered) := by
  by_cases hneeds : NeedsOffer own
  · have hcount := count_le_one_of_onlyOffered honly hneeds
    rw [← hids] at hcount
    rcases payloadsFor_cases hcount with hnone | ⟨payload, hmem, hone⟩
    · rw [hnone]
      trivial
    · obtain ⟨other, -, hid, -, haccepted⟩ := exists_other htaken hmem
      rw [hone]
      exact ⟨haccepted own hown hid hneeds, trivial⟩
  · by_cases hcommon : getId own ∈ builderIds client
    · obtain ⟨other, hother, hid⟩ := List.mem_map.mp hcommon
      have hsame : getId (own.buildToExtension .server).1 = getId own :=
        LawfulBuilders.getId_buildToExtension own .server
      refine accepts_of_getId (h.forClient other hother)
        (hsame.trans hid.symm) (fun hbuilt => hneeds ?_) _
      exact needsOffer_of_getId hsame hbuilt
    · rw [← hids] at hcommon
      rw [payloadsFor_eq_nil.mpr hcommon]
      trivial

/-- What the server's builders make of the client's packet. -/
theorem exists_accepted (h : Setting server client offered)
    (honly : OnlyOffered (builderIds server) client)
    {answered : List (UInt8 × Bytes)}
    (hids : answered.map Prod.fst = builderIds client)
    (htaken : List.Forall₂ (fun builder entry => entry.1 = getId builder ∧
      Taken server builder entry.2) client answered) :
    ∃ accepted, buildEntries .server (buildToExtensions .server server).1
      answered = .ok accepted := by
  have hkept := (ids_of_buildToExtensions .server server).1
  have haccepts : AcceptsAll .server answered
      (buildToExtensions .server server).1 := by
    apply acceptsAll_of_builders
    · rw [hkept]
      exact h.distinct
    · rw [builders_of_sentEntries (sentEntries_iff.mp h.offers)]
      intro builder hbuilder
      obtain ⟨own, hown, rfl⟩ := List.mem_map.mp hbuilder
      have hsame : getId (own.buildToExtension .server).1 = getId own :=
        LawfulBuilders.getId_buildToExtension own .server
      change Accepts .server _
        (payloadsFor (getId (own.buildToExtension .server).1) answered)
      rw [hsame]
      exact h.accepts_answered honly hids htaken hown
  obtain ⟨extensions, hbuilt⟩ := buildEntries_of_acceptsAll haccepts
  exact ⟨_, hbuilt⟩

theorem exchange_of_onlyOffered (h : Setting server client offered)
    (honly : OnlyOffered (builderIds server) client) :
    ∃ supported, exchange server client = .ok supported ∧
      OffersFit (some server) (some client) := by
  obtain ⟨received, hreceived⟩ := h.exists_received
  obtain ⟨answered, hanswered, htaken⟩ := h.exists_answered honly
  have hids : answered.map Prod.fst = builderIds client := by
    rw [ids_of_sentEntries hanswered]
    exact (ids_of_buildEntries hreceived).1
  obtain ⟨accepted, haccepted⟩ := h.exists_accepted honly hids htaken
  have hfits : ∀ entry ∈ answered, FitsLength entry.2 := by
    rintro ⟨id, payload⟩ hmem
    obtain ⟨other, -, -, hfit, -⟩ := exists_other htaken hmem
    exact hfit
  have hdecoded := hreceived
  rw [← decodeExtensions_encodeEntries h.fits] at hdecoded
  rw [← decodeExtensions_encodeEntries hfits] at haccepted
  refine ⟨(getSupportedExtensions accepted.2 accepted.1,
    getSupportedExtensions received (buildToExtensions .client
      (fedAll .client offered client)).1), ?_, ?_⟩
  · simp only [exchange, h.offers, hdecoded, hanswered, haccepted,
      Outcome.bind_ok]
  · intro sent hsent
    obtain rfl := Outcome.ok.inj (h.offers.symm.trans hsent)
    refine ⟨h.fits, fun built hbuilt sent hsent => ?_⟩
    obtain rfl := Outcome.ok.inj (hreceived.symm.trans hbuilt)
    obtain rfl := Outcome.ok.inj (hanswered.symm.trans hsent)
    exact hfits

/-- A complete exchange had every authentication extension of the client
offered. -/
theorem onlyOffered_of_exchange (h : Setting server client offered)
    {supported : List AnyProtocolExtension × List AnyProtocolExtension}
    (hexchange : exchange server client = .ok supported) :
    OnlyOffered (builderIds server) client := by
  simp only [exchange, Outcome.bind_eq_ok, h.offers] at hexchange
  obtain ⟨sent, hsent, received, hreceived, answered, hanswered, -⟩ :=
    hexchange
  obtain rfl := Outcome.ok.inj hsent
  obtain ⟨built, hbuilt⟩ := h.exists_received
  rw [decodeExtensions_encodeEntries h.fits, hbuilt] at hreceived
  obtain rfl := Outcome.ok.inj hreceived
  rw [← h.ids]
  exact onlyOffered_of_answered h.forClient (sentEntries_iff.mp hanswered)

end Setting

/-- The connection comes about whatever the schedule, and the client ends up
with the extensions that both sides have. -/
structure SupportsCommon (bufferSize : UInt32)
    (server client : List (AnyProtocolExtensionBuilder σ)) : Prop where
  completes : Completes bufferSize (some server) (some client)
  supported : ∀ (net : HandshakeNetwork AnyProtocolExtension) result,
    (Network.machine reliable).Reachable
      (connection bufferSize (some server) (some client)) net →
    net.right = .ret (.ok result) →
    ∃ extensions, result.kind = .v2 extensions ∧
      ∀ id, id ∈ extensionIds extensions ↔
        id ∈ builderIds server ∧ id ∈ builderIds client

/-- The extensions in common are supported exactly if the client has no
authentication builder whose entry the server does not offer it. -/
theorem supportsCommon_iff {bufferSize : UInt32}
    {server client : List (AnyProtocolExtensionBuilder σ)}
    {offered : List (UInt8 × Bytes)}
    (hsetting : Setting server client offered) :
    SupportsCommon bufferSize server client ↔
      OnlyOffered (builderIds server) client := by
  constructor
  · intro hsupports
    obtain ⟨supported, hexchange⟩ :=
      completes_iff_exchangeSucceeds.mp hsupports.completes
    exact hsetting.onlyOffered_of_exchange hexchange
  · intro honly
    obtain ⟨supported, hexchange, hfit⟩ :=
      hsetting.exchange_of_onlyOffered honly
    have hrun := run_of_exchange hexchange bufferSize
    refine ⟨completes_iff_exchangeSucceeds.mpr ⟨supported, hexchange⟩, ?_⟩
    intro net result hreach hresult
    have hleads : Network.Leads reliable net (agreed bufferSize
        (.v2 supported.1) (.v2 supported.2) false) :=
      Network.diamond.reachable_end (terminal_agreed bufferSize
        (.v2 supported.1) (.v2 supported.2) false) ⟨_, hrun⟩ hreach
    have hend := hleads.right hresult
    cases hend
    exact ⟨supported.2, rfl, fun id => (ids_of_exchange hexchange hfit id).2⟩

theorem succeeds_udp : Succeeds (.udp : AnyProtocolExtensionBuilder σ) .udp :=
  ⟨[], .udp, [], .udp, ⟨.udp, rfl, rfl, rfl⟩, rfl, ⟨.udp, rfl, rfl, rfl⟩,
    by simp [FitsLength], rfl⟩

/-- A client asks for a message of the day that the server does not have, and
keeps UDP and its password. -/
theorem supportsCommon_of_motd :
    SupportsCommon 128
      ([.udp, .password (.serverBeforeClientInfo [("alice", "secret")] true)] :
        List PlainBuilder)
      [.motd .client, .udp,
        .password (.clientBeforeServerInfo (some ("alice", "secret")))] := by
  have hfits : FitsLength (5 :: (asBytes "alice" ++ asBytes "secret")) := by
    unfold FitsLength
    decide
  have hpassword : Succeeds
      (.password (.serverBeforeClientInfo [("alice", "secret")] true) :
        PlainBuilder)
      (.password (.clientBeforeServerInfo (some ("alice", "secret")))) :=
    ⟨[1], .password .clientBeforeServerInfo,
      5 :: (asBytes "alice" ++ asBytes "secret"),
      .password (.serverAfterClientInfo "alice" "secret"),
      ⟨_, rfl, rfl, rfl⟩, rfl, ⟨_, rfl, rfl, rfl⟩, hfits, by decide⟩
  have hsetting : Setting
      ([.udp, .password (.serverBeforeClientInfo [("alice", "secret")] true)] :
        List PlainBuilder)
      [.motd .client, .udp,
        .password (.clientBeforeServerInfo (some ("alice", "secret")))]
      [(0x01, []), (0x02, [1])] := by
    refine ⟨by decide, ?_, rfl, by simp [FitsLength], ?_⟩
    · simp only [List.forall_mem_cons]
      exact ⟨.motd, .udp, .password "alice" "secret", by simp⟩
    · intro own hown other hother hid
      simp only [List.mem_cons, List.not_mem_nil, or_false] at hown hother
      rcases hown with rfl | rfl
      · rcases hother with rfl | rfl | rfl
        · cases hid
        · exact succeeds_udp
        · cases hid
      · rcases hother with rfl | rfl | rfl
        · cases hid
        · cases hid
        · exact hpassword
  apply (supportsCommon_iff hsetting).mpr
  rw [← hsetting.ids]
  refine onlyOffered_cons.mpr ⟨fun hneeds => False.elim hneeds, ?_⟩
  refine onlyOffered_cons.mpr ⟨fun hneeds => False.elim hneeds, ?_⟩
  refine onlyOffered_cons.mpr ⟨fun _ => by decide, ?_⟩
  intro before builder after hsplit
  simp at hsplit

/-- A client with a password and a server without: the client's handshake
fails after it has read the server's packet. -/
theorem not_supportsCommon_of_password :
    ∃ net : HandshakeNetwork AnyProtocolExtension,
      (Network.machine reliable).run
        (connection 128 (some ([.udp] : List PlainBuilder)) (some [.udp,
          .password (.clientBeforeServerInfo (some ("alice", "secret")))]))
        [.left, .right] = some net ∧
      net.right = .ret (.err .extensionImplNotSupported) ∧
      Setting ([.udp] : List PlainBuilder) [.udp,
        .password (.clientBeforeServerInfo (some ("alice", "secret")))]
        [(0x01, [])] ∧
      ¬SupportsCommon 128 ([.udp] : List PlainBuilder) [.udp,
        .password (.clientBeforeServerInfo (some ("alice", "secret")))] := by
  have hreceived : decodeExtensions .client ([.udp, .password
        (.clientBeforeServerInfo (some ("alice", "secret")))] :
          List PlainBuilder) (encodeEntries [(0x01, [])]) =
      .ok ([.udp, .password (.clientBeforeServerInfo
        (some ("alice", "secret")))], [.udp]) := by
    rw [decodeExtensions_encodeEntries (by simp [FitsLength])]
    rfl
  have hoffered : sentEntries .server ([.udp] : List PlainBuilder) =
      .ok [(0x01, [])] := rfl
  have hanswered : sentEntries .client ([.udp, .password
        (.clientBeforeServerInfo (some ("alice", "secret")))] :
          List PlainBuilder) = .err .extensionImplNotSupported := rfl
  obtain ⟨net, hrun, hfailed⟩ := client_fails 128 hoffered hreceived hanswered
  refine ⟨net, hrun, hfailed,
    ⟨by decide, ?_, hoffered, by simp [FitsLength], ?_⟩, ?_⟩
  · simp only [List.forall_mem_cons]
    exact ⟨.udp, .password "alice" "secret", by simp⟩
  · intro own hown other hother hid
    simp only [List.mem_cons, List.not_mem_nil, or_false] at hown hother
    obtain rfl := hown
    rcases hother with rfl | rfl
    · exact succeeds_udp
    · cases hid
  · intro hsupports
    obtain ⟨result, hresult, -⟩ :=
      (hsupports.completes.notFailed net ⟨_, hrun⟩).2 _ hfailed
    cases hresult

end AnyProtocolExtensionBuilder

end Epoxy
