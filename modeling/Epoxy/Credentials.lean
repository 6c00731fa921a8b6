/-
Authentication between the builders of the two sides: the server's payload
goes through the client's builder, and the client's answer through the
server's.  The halves of each encoding are inverse to each other, and the
server accepts the credentials that it knows and no others.
-/
import Epoxy.ExtensionBuilders

namespace Epoxy

open ByteCursor

namespace PasswordProtocolExtensionBuilder

/-- The name's length fits its byte. -/
theorem parseCredentials_encode {user : String} (password : String)
    (huser : (asBytes user).length ≤ 255) :
    parseCredentials ([UInt8.ofNat (asBytes user).length] ++ asBytes user ++
      asBytes password) = .ok (user, password) := by
  have hlength :
      (UInt8.ofNat (asBytes user).length).toNat = (asBytes user).length := by
    rw [UInt8.toNat_ofNat']
    omega
  simp only [parseCredentials, getU8, List.cons_append, List.nil_append,
    Outcome.bind_ok, hlength, splitTo_append rfl, decodeUtf8,
    fromUtf8_asBytes, Outcome.pure_eq_ok]

/-- Whoever was asked once is not asked again. -/
theorem buildFromBytes_of_after (users : List (String × String))
    (required : Bool) (bytes : Bytes) :
    buildFromBytes (.serverAfterClientInfo users required) bytes =
      (.serverAfterClientInfo users required,
        .err .extensionImplNotSupported) := rfl

/-- The client's answer to a server with these users. -/
theorem buildFromBytes_encode (users : List (String × String))
    (required : Bool) {user : String} (password : String)
    (huser : (asBytes user).length ≤ 255) :
    ∃ answer,
      (PasswordProtocolExtension.clientAfterServerInfo user password).encode =
        .ok answer ∧
      buildFromBytes (.serverBeforeClientInfo users required) answer =
        (.serverAfterClientInfo users required,
          if users.lookup user = some password then
            .ok (.serverAfterClientInfo user password)
          else .err .passwordExtensionCredsInvalid) := by
  refine ⟨_, if_pos (Nat.lt_succ_of_le huser), ?_⟩
  rw [buildFromBytes, parseCredentials_encode password huser]
  rfl

end PasswordProtocolExtensionBuilder

@[simp] theorem SupportedCertificateTypes.fromBits_bits
    (types : SupportedCertificateTypes) : fromBits types.bits = some types := by
  rw [fromBits, dif_pos types.known]

namespace CertAuthProtocolExtensionBuilder

variable {σ : Type} [CertCrates σ]

/-- The challenge arrives as it was sent. -/
theorem parseChallenge_encode (certTypes : SupportedCertificateTypes)
    (challenge : Bytes) (required : Bool) :
    parseChallenge (CertAuthProtocolExtension.server certTypes challenge
      required).encode = .ok (required, certTypes, challenge) := by
  cases required with
  | true => simp [parseChallenge, CertAuthProtocolExtension.encode, getU8]
  | false => simp [parseChallenge, CertAuthProtocolExtension.encode, getU8]

theorem verifyResponse_encode
    (hinverse : ∀ signature : σ,
      CertCrates.fromSlice (CertCrates.toVec signature) = some signature)
    (verifiers : List (VerifyKey σ)) (challenge : Bytes)
    (certType : SupportedCertificateTypes) (hash : Vector UInt8 32)
    (signature : σ) :
    verifyResponse verifiers challenge
        (CertAuthProtocolExtension.client certType hash
          (CertCrates.toVec signature)).encode = .ok .serverVerified ↔
      ∃ verifier ∈ verifiers, verifier.certType = certType ∧
        verifier.hash = hash ∧ verifier.verify challenge signature = true := by
  have hlength : hash.toList.length = 32 := by simp
  simp only [verifyResponse, CertAuthProtocolExtension.encode,
    List.cons_append, List.nil_append, getU8, Outcome.bind_ok,
    SupportedCertificateTypes.fromBits_bits,
    splitTo_append hlength, hinverse]
  have hverified : ((verifiers.filter fun x =>
      x.certType = certType && x.hash.toList = hash.toList).any fun x =>
        x.verify challenge signature) = true ↔
      ∃ verifier ∈ verifiers, verifier.certType = certType ∧
        verifier.hash = hash ∧ verifier.verify challenge signature = true := by
    simp only [List.any_eq_true, List.mem_filter, Bool.and_eq_true,
      decide_eq_true_eq, Vector.toList_inj, and_assoc]
  rw [← hverified]
  split
  · next htrue => exact iff_of_true rfl htrue
  · next hfalse => exact iff_of_false (by simp) hfalse

/-- The client answers a challenge that it got if its key is of the type that
the server supports and signs. -/
theorem buildToExtension_of_after (key : SigningKey σ) (challenge : Bytes)
    (required : Bool) (response : CertAuthProtocolExtension) :
    (buildToExtension (.clientAfterChallenge (some key)
        SupportedCertificateTypes.ed25519 challenge required)).2 =
        .ok response ↔
      key.certType = .ed25519 ∧ ∃ signature,
        key.trySign challenge = some signature ∧
        response = .client key.certType key.hash
          (CertCrates.toVec signature) := by
  have htypes : SupportedCertificateTypes.ed25519.iter.contains
      key.certType = true ↔ key.certType = .ed25519 := by
    simp [SupportedCertificateTypes.iter]
  unfold buildToExtension
  dsimp only
  split
  · next htype =>
      cases hsign : key.trySign challenge with
      | none => simp
      | some signature => simp [htypes.mp htype, eq_comm]
  · next htype =>
      rw [htypes] at htype
      simp [htype]

end CertAuthProtocolExtensionBuilder

/-- The two builders of a connection, up to the server's verdict on what the
client answered; afterwards the server's builder refuses every payload. -/
def PasswordExchange (users : List (String × String)) (required : Bool)
    (user password : String)
    (verdict : Outcome WispError PasswordProtocolExtension) : Prop :=
  ∃ offer payload client received response answer server,
    (PasswordProtocolExtensionBuilder.serverBeforeClientInfo users
      required).buildToExtension = .ok offer ∧
    offer.encode = .ok payload ∧
    (PasswordProtocolExtensionBuilder.clientBeforeServerInfo
      (some (user, password))).buildFromBytes payload =
        (client, .ok received) ∧
    client.buildToExtension = .ok response ∧
    response.encode = .ok answer ∧
    (PasswordProtocolExtensionBuilder.serverBeforeClientInfo users
      required).buildFromBytes answer = (server, verdict) ∧
    ∀ further, server.buildFromBytes further =
      (server, .err .extensionImplNotSupported)

/-- The same for a signing key, with the client's response. -/
def CertAuthExchange {σ : Type} [CertCrates σ]
    (verifiers : List (VerifyKey σ)) (required : Bool) (key : SigningKey σ)
    (response : CertAuthProtocolExtension)
    (verdict : Outcome WispError CertAuthProtocolExtension) : Prop :=
  ∃ server offer client received,
    (CertAuthProtocolExtensionBuilder.serverBeforeChallenge verifiers
      required).buildToExtension = (server, .ok offer) ∧
    (CertAuthProtocolExtensionBuilder.clientBeforeChallenge
      (some key)).buildFromBytes offer.encode = (client, .ok received) ∧
    client.buildToExtension.2 = .ok response ∧
    (server.buildFromBytes response.encode).2 = verdict

theorem passwordExchange_of_short (users : List (String × String))
    (required : Bool) {user : String} (password : String)
    (huser : (asBytes user).length ≤ 255) :
    PasswordExchange users required user password
      (if users.lookup user = some password then
        .ok (.serverAfterClientInfo user password)
      else .err .passwordExtensionCredsInvalid) := by
  obtain ⟨answer, hanswer, hverdict⟩ :=
    PasswordProtocolExtensionBuilder.buildFromBytes_encode users required
      password huser
  exact ⟨_, _, _, _, _, answer, _, rfl, rfl, rfl, rfl, hanswer, hverdict,
    PasswordProtocolExtensionBuilder.buildFromBytes_of_after users required⟩

variable {σ : Type} [CertCrates σ]

theorem certAuthExchange_iff {verifiers : List (VerifyKey σ)}
    {required : Bool} {key : SigningKey σ} {challenge : Vector UInt8 64}
    (hfill : CertCrates.fill σ = some challenge)
    {response : CertAuthProtocolExtension}
    {verdict : Outcome WispError CertAuthProtocolExtension} :
    CertAuthExchange verifiers required key response verdict ↔
      (key.certType = .ed25519 ∧ ∃ signature,
        key.trySign challenge.toList = some signature ∧
        response = .client key.certType key.hash
          (CertCrates.toVec signature)) ∧
      CertAuthProtocolExtensionBuilder.verifyResponse verifiers
        challenge.toList response.encode = verdict := by
  have hoffer : (CertAuthProtocolExtensionBuilder.serverBeforeChallenge
      verifiers required).buildToExtension =
        (.serverAfterChallenge verifiers challenge.toList required,
          .ok (.server .ed25519 challenge.toList required)) := by
    simp only [CertAuthProtocolExtensionBuilder.buildToExtension, hfill]
  have hreceived : (CertAuthProtocolExtensionBuilder.clientBeforeChallenge
      (some key)).buildFromBytes (CertAuthProtocolExtension.server .ed25519
        challenge.toList required).encode =
      (.clientAfterChallenge (some key) .ed25519 challenge.toList required,
        .ok .clientRecieved) := by
    rw [CertAuthProtocolExtensionBuilder.buildFromBytes,
      CertAuthProtocolExtensionBuilder.parseChallenge_encode]
    rfl
  rw [← CertAuthProtocolExtensionBuilder.buildToExtension_of_after key
    challenge.toList required response]
  constructor
  · rintro ⟨server, offer, client, received, hserver, hclient, hresponse,
      hverdict⟩
    rw [hoffer] at hserver
    cases hserver
    rw [hreceived] at hclient
    cases hclient
    exact ⟨hresponse, hverdict⟩
  · rintro ⟨hresponse, hverdict⟩
    exact ⟨_, _, _, _, hoffer, hreceived, hresponse, hverdict⟩

/-- The server's builders accept the right credentials and no others. -/
theorem exchanges_decide
    (hinverse : ∀ signature : σ,
      CertCrates.fromSlice (CertCrates.toVec signature) = some signature) :
    (∀ (users : List (String × String)) (required : Bool)
      (user password : String), (asBytes user).length ≤ 255 →
      PasswordExchange users required user password
        (if users.lookup user = some password then
          .ok (.serverAfterClientInfo user password)
        else .err .passwordExtensionCredsInvalid)) ∧
    ∀ (verifiers : List (VerifyKey σ)) (required : Bool) (key : SigningKey σ)
      (challenge : Vector UInt8 64), CertCrates.fill σ = some challenge →
      (key.certType = .ed25519 →
        (key.trySign challenge.toList).isSome = true →
        ∃ response verdict,
          CertAuthExchange verifiers required key response verdict) ∧
      ∀ response verdict,
        CertAuthExchange verifiers required key response verdict →
        (verdict = .ok .serverVerified ↔
          ∃ verifier ∈ verifiers, verifier.certType = key.certType ∧
            verifier.hash = key.hash ∧ ∃ signature,
              key.trySign challenge.toList = some signature ∧
              verifier.verify challenge.toList signature = true) := by
  constructor
  · intro users required user password huser
    exact passwordExchange_of_short users required password huser
  · intro verifiers required key challenge hfill
    constructor
    · intro htype hsigned
      obtain ⟨signature, hsign⟩ := Option.isSome_iff_exists.mp hsigned
      exact ⟨_, _, (certAuthExchange_iff hfill).mpr
        ⟨⟨htype, signature, hsign, rfl⟩, rfl⟩⟩
    · intro response verdict hexchange
      obtain ⟨⟨-, signature, hsign, rfl⟩, rfl⟩ :=
        (certAuthExchange_iff hfill).mp hexchange
      rw [CertAuthProtocolExtensionBuilder.verifyResponse_encode hinverse]
      simp only [hsign, Option.some.injEq, exists_eq_left']

theorem size_toArray {bytes : Bytes} (hlength : bytes.length = 64) :
    bytes.toArray.size = 64 := by
  rw [List.size_toArray, hlength]

/-- Signatures of 64 bytes, and a source of random bytes that yields sevens. -/
instance : CertCrates (Vector UInt8 64) where
  fromSlice bytes :=
    if hlength : bytes.length = 64 then
      some ⟨bytes.toArray, size_toArray hlength⟩
    else none
  toVec := Vector.toList
  fill := some (Vector.replicate 64 7)

/-- A key whose signature of 64 bytes is these bytes, and its verifier. -/
def echoKey : SigningKey (Vector UInt8 64) :=
  ⟨.ed25519, Vector.replicate 32 1, CertCrates.fromSlice⟩

def echoVerifier : VerifyKey (Vector UInt8 64) :=
  ⟨.ed25519, Vector.replicate 32 1,
    fun challenge signature => signature.toList = challenge⟩

theorem exchanges_decide_echo :
    PasswordExchange [("alice", "secret")] true "alice" "secret"
        (.ok (.serverAfterClientInfo "alice" "secret")) ∧
      ∀ response verdict,
        CertAuthExchange [echoVerifier] true echoKey response verdict →
        verdict = .ok .serverVerified := by
  have hinverse : ∀ signature : Vector UInt8 64,
      CertCrates.fromSlice (CertCrates.toVec signature) = some signature := by
    intro signature
    simp [CertCrates.fromSlice, CertCrates.toVec, Vector.toList]
  obtain ⟨hpassword, hcert⟩ := exchanges_decide hinverse
  refine ⟨hpassword _ true "alice" "secret" (by decide), ?_⟩
  intro response verdict hexchange
  refine ((hcert _ _ _ (Vector.replicate 64 7) rfl).2 response verdict
    hexchange).mpr ?_
  exact ⟨echoVerifier, List.mem_singleton_self _, rfl, rfl,
    Vector.replicate 64 7, by rfl, by decide⟩

end Epoxy
