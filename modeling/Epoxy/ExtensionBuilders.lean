/-
The protocol extensions of this repository and their builders: UDP, MOTD,
password and certificate authentication, and the server's wispnet and twisp.
-/
import Epoxy.InfoPacket

namespace Epoxy

open ByteCursor

variable {α β : Type}

/-- Run the rest on the value; otherwise the builder stays as it is. -/
def keepUnless {B : Type} (builder : B) (x : Outcome WispError α)
    (next : α → B × Outcome WispError β) : B × Outcome WispError β :=
  match x with
  | .ok value => next value
  | .err error => (builder, .err error)
  | .panic => (builder, .panic)

theorem keepUnless_eq_panic {B : Type} {builder : B}
    {x : Outcome WispError α} {next : α → B × Outcome WispError β}
    (hnext : ∀ value, (next value).2 ≠ .panic) :
    (keepUnless builder x next).2 = .panic ↔ x = .panic := by
  cases x with
  | ok value => simpa [keepUnless] using hnext value
  | err error => simp [keepUnless]
  | panic => simp [keepUnless]

structure MotdProtocolExtension where
  role : Role
  motd : String
deriving Repr, DecidableEq

inductive MotdProtocolExtensionBuilder where
  | server (motd : String)
  | client
deriving Repr, DecidableEq

namespace MotdProtocolExtension

def encode (extension : MotdProtocolExtension) : Bytes :=
  match extension.role with
  | .server => asBytes extension.motd
  | .client => []

def buildFromBytes (data : Bytes) (role : Role) :
    Outcome WispError MotdProtocolExtension :=
  match role with
  | .client =>
      match fromUtf8 data with
      | some motd => .ok ⟨role, motd⟩
      | none => .err .extensionImplError
  | .server => .ok ⟨role, ""⟩

def buildToExtension (builder : MotdProtocolExtensionBuilder) (role : Role) :
    MotdProtocolExtension :=
  match builder with
  | .server motd => ⟨role, motd⟩
  | .client => ⟨role, ""⟩

theorem buildFromBytes_ne_panic (data : Bytes) (role : Role) :
    buildFromBytes data role ≠ .panic := by
  unfold buildFromBytes
  cases role with
  | server => simp
  | client =>
      cases fromUtf8 data with
      | none => simp
      | some motd => simp

end MotdProtocolExtension

inductive PasswordProtocolExtension where
  | serverBeforeClientInfo (required : Bool)
  | serverAfterClientInfo (chosenUser chosenPassword : String)
  | clientBeforeServerInfo
  | clientAfterServerInfo (user password : String)
deriving Repr, DecidableEq

def PasswordProtocolExtension.encode :
    PasswordProtocolExtension → Outcome WispError Bytes
  | .serverBeforeClientInfo required => .ok [if required then 1 else 0]
  | .clientAfterServerInfo user password =>
      -- the name's length must convert to one byte
      if (asBytes user).length < 256 then
        .ok ([UInt8.ofNat (asBytes user).length] ++ asBytes user ++
          asBytes password)
      else .panic
  | .serverAfterClientInfo _ _ => .ok []
  | .clientBeforeServerInfo => .ok []

inductive PasswordProtocolExtensionBuilder where
  | serverBeforeClientInfo (users : List (String × String)) (required : Bool)
  | serverAfterClientInfo (users : List (String × String)) (required : Bool)
  | clientBeforeServerInfo (creds : Option (String × String))
  | clientAfterServerInfo (creds : Option (String × String)) (required : Bool)
deriving Repr, DecidableEq

namespace PasswordProtocolExtensionBuilder

def buildToExtension :
    PasswordProtocolExtensionBuilder →
      Outcome WispError PasswordProtocolExtension
  | .serverBeforeClientInfo _ required =>
      .ok (.serverBeforeClientInfo required)
  | .serverAfterClientInfo _ _ => .err .extensionImplNotSupported
  | .clientBeforeServerInfo _ => .err .extensionImplNotSupported
  | .clientAfterServerInfo creds _ =>
      match creds with
      | some (user, password) => .ok (.clientAfterServerInfo user password)
      | none => .err .passwordExtensionNoCreds

/-- The user name with its length in front, then the password. -/
def parseCredentials (bytes : Bytes) : Outcome WispError (String × String) := do
  let (userLen, bytes) ← getU8 bytes
  let (user, bytes) ← splitTo userLen.toNat bytes
  let user ← decodeUtf8 user
  let password ← decodeUtf8 bytes
  pure (user, password)

def buildFromBytes (builder : PasswordProtocolExtensionBuilder)
    (bytes : Bytes) :
    PasswordProtocolExtensionBuilder ×
      Outcome WispError PasswordProtocolExtension :=
  match builder with
  | .serverBeforeClientInfo users required =>
      keepUnless builder (parseCredentials bytes) fun (user, password) =>
        (.serverAfterClientInfo users required,
          if users.lookup user = some password then
            .ok (.serverAfterClientInfo user password)
          else .err .passwordExtensionCredsInvalid)
  | .clientBeforeServerInfo creds =>
      keepUnless builder (getU8 bytes) fun (required, _) =>
        (.clientAfterServerInfo creds (required ≠ 0),
          .ok .clientBeforeServerInfo)
  | .clientAfterServerInfo _ _ => (builder, .err .extensionImplNotSupported)
  | .serverAfterClientInfo _ _ => (builder, .err .extensionImplNotSupported)

/-- The payload holds everything that the builder will read. -/
def LongEnough : PasswordProtocolExtensionBuilder → Bytes → Prop
  | .serverBeforeClientInfo _ _, bytes =>
      ∃ userLen rest, bytes = userLen :: rest ∧ userLen.toNat ≤ rest.length
  | .clientBeforeServerInfo _, bytes => 1 ≤ bytes.length
  | .clientAfterServerInfo _ _, _ => True
  | .serverAfterClientInfo _ _, _ => True

theorem parseCredentials_eq_panic {bytes : Bytes} :
    parseCredentials bytes = .panic ↔
      ¬ ∃ userLen rest, bytes = userLen :: rest ∧
        userLen.toNat ≤ rest.length := by
  cases bytes with
  | nil => simp [parseCredentials, getU8]
  | cons userLen rest =>
      by_cases hle : userLen.toNat ≤ rest.length
      · simp [parseCredentials, getU8, splitTo_of_le hle, hle,
          Outcome.bind_eq_panic, decodeUtf8_ne_panic]
      · have hsplit : (splitTo userLen.toNat rest :
            Outcome WispError (Bytes × Bytes)) = .panic :=
          splitTo_eq_panic.mpr (Nat.lt_of_not_le hle)
        simp [parseCredentials, getU8, hsplit, hle]

theorem buildFromBytes_eq_panic {builder : PasswordProtocolExtensionBuilder}
    {bytes : Bytes} :
    (builder.buildFromBytes bytes).2 = .panic ↔
      ¬ builder.LongEnough bytes := by
  cases builder with
  | serverBeforeClientInfo users required =>
      unfold buildFromBytes
      rw [keepUnless_eq_panic]
      · exact parseCredentials_eq_panic
      · rintro ⟨user, password⟩
        change (if _ then _ else _) ≠ _
        split <;> simp
  | clientBeforeServerInfo creds =>
      unfold buildFromBytes
      rw [keepUnless_eq_panic]
      · cases bytes <;> simp [LongEnough, getU8]
      · simp
  | clientAfterServerInfo creds required => simp [buildFromBytes, LongEnough]
  | serverAfterClientInfo users required => simp [buildFromBytes, LongEnough]

end PasswordProtocolExtensionBuilder

/-- A set of certificate types; only the ED25519 bit may be set. -/
structure SupportedCertificateTypes where
  bits : UInt8
  known : bits &&& 0b11111110 = 0
deriving Repr, DecidableEq

namespace SupportedCertificateTypes

def ed25519 : SupportedCertificateTypes := ⟨0b00000001, by decide⟩

def fromBits (bits : UInt8) : Option SupportedCertificateTypes :=
  if known : bits &&& 0b11111110 = 0 then some ⟨bits, known⟩ else none

/-- The single types in the set. -/
def iter (types : SupportedCertificateTypes) :
    List SupportedCertificateTypes :=
  if types.bits &&& ed25519.bits = ed25519.bits then [ed25519] else []

end SupportedCertificateTypes

/-- What the certificate extension takes from its crates: the parser and the
bytes of a signature, and the 64 random bytes, unless the source fails. -/
class CertCrates (σ : Type) where
  fromSlice : Bytes → Option σ
  toVec : σ → Bytes
  fill : Option (Vector UInt8 64)

structure VerifyKey (σ : Type) where
  certType : SupportedCertificateTypes
  hash : Vector UInt8 32
  verify : Bytes → σ → Bool

structure SigningKey (σ : Type) where
  certType : SupportedCertificateTypes
  hash : Vector UInt8 32
  trySign : Bytes → Option σ

inductive CertAuthProtocolExtension where
  | server (certTypes : SupportedCertificateTypes) (challenge : Bytes)
      (required : Bool)
  | client (certType : SupportedCertificateTypes) (hash : Vector UInt8 32)
      (signature : Bytes)
  | clientRecieved
  | serverVerified
deriving DecidableEq

def CertAuthProtocolExtension.encode : CertAuthProtocolExtension → Bytes
  | .server certTypes challenge required =>
      [if required then 1 else 0] ++ [certTypes.bits] ++ challenge
  | .client certType hash signature =>
      [certType.bits] ++ hash.toList ++ signature
  | .serverVerified => []
  | .clientRecieved => []

inductive CertAuthProtocolExtensionBuilder (σ : Type) where
  | serverBeforeChallenge (verifiers : List (VerifyKey σ)) (required : Bool)
  | serverAfterChallenge (verifiers : List (VerifyKey σ)) (challenge : Bytes)
      (required : Bool)
  | clientBeforeChallenge (signer : Option (SigningKey σ))
  | clientAfterChallenge (signer : Option (SigningKey σ))
      (certTypes : SupportedCertificateTypes) (challenge : Bytes)
      (required : Bool)

namespace CertAuthProtocolExtensionBuilder

variable {σ : Type} [CertCrates σ]

/-- Validate the client's answer to the challenge. -/
def verifyResponse (verifiers : List (VerifyKey σ)) (challenge bytes : Bytes) :
    Outcome WispError CertAuthProtocolExtension := do
  let (bits, bytes) ← getU8 bytes
  match SupportedCertificateTypes.fromBits bits with
  | none => .err .certAuthExtensionSigInvalid
  | some certType => do
      let (hash, bytes) ← splitTo 32 bytes
      match (CertCrates.fromSlice bytes : Option σ) with
      | none => .err .extensionImplError
      | some sig =>
          if (verifiers.filter fun x =>
              x.certType = certType && x.hash.toList = hash).any fun x =>
                x.verify challenge sig then
            .ok .serverVerified
          else .err .certAuthExtensionSigInvalid

/-- The server's demand and certificate types, then the challenge. -/
def parseChallenge (bytes : Bytes) :
    Outcome WispError (Bool × SupportedCertificateTypes × Bytes) := do
  let (required, bytes) ← getU8 bytes
  let (bits, bytes) ← getU8 bytes
  match SupportedCertificateTypes.fromBits bits with
  | none => .err .certAuthExtensionCertTypeInvalid
  | some certTypes => .ok (required ≠ 0, certTypes, bytes)

def buildFromBytes (builder : CertAuthProtocolExtensionBuilder σ)
    (bytes : Bytes) :
    CertAuthProtocolExtensionBuilder σ ×
      Outcome WispError CertAuthProtocolExtension :=
  match builder with
  | .serverAfterChallenge verifiers challenge _ =>
      (builder, verifyResponse verifiers challenge bytes)
  | .clientBeforeChallenge signer =>
      keepUnless builder (parseChallenge bytes)
        fun (required, certTypes, challenge) =>
          (.clientAfterChallenge signer certTypes challenge required,
            .ok .clientRecieved)
  | .clientAfterChallenge _ _ _ _ => (builder, .err .extensionImplNotSupported)
  | .serverBeforeChallenge _ _ => (builder, .err .extensionImplNotSupported)

def buildToExtension (builder : CertAuthProtocolExtensionBuilder σ) :
    CertAuthProtocolExtensionBuilder σ ×
      Outcome WispError CertAuthProtocolExtension :=
  match builder with
  | .serverBeforeChallenge verifiers required =>
      match CertCrates.fill σ with
      | none => (builder, .err .extensionImplError)
      | some challenge =>
          (.serverAfterChallenge verifiers challenge.toList required,
            .ok (.server .ed25519 challenge.toList required))
  | .clientAfterChallenge signer certTypes challenge _ =>
      (builder,
        match signer with
        | none => .err .certAuthExtensionNoKey
        | some signer =>
            if certTypes.iter.contains signer.certType then
              match signer.trySign challenge with
              | none => .err .extensionImplError
              | some signature =>
                  .ok (.client signer.certType signer.hash
                    (CertCrates.toVec signature))
            else .err .certAuthExtensionCertTypeInvalid)
  | .clientBeforeChallenge _ => (builder, .err .extensionImplNotSupported)
  | .serverAfterChallenge _ _ _ => (builder, .err .extensionImplNotSupported)

/-- The payload holds everything that the builder will read. -/
def LongEnough : CertAuthProtocolExtensionBuilder σ → Bytes → Prop
  | .serverAfterChallenge _ _ _, bytes =>
      ∃ bits rest, bytes = bits :: rest ∧
        ((SupportedCertificateTypes.fromBits bits).isSome → 32 ≤ rest.length)
  | .clientBeforeChallenge _, bytes => 2 ≤ bytes.length
  | .clientAfterChallenge _ _ _ _, _ => True
  | .serverBeforeChallenge _ _, _ => True

theorem verifyResponse_eq_panic {verifiers : List (VerifyKey σ)}
    {challenge bytes : Bytes} :
    verifyResponse verifiers challenge bytes = .panic ↔
      ¬ ∃ bits rest, bytes = bits :: rest ∧
        ((SupportedCertificateTypes.fromBits bits).isSome →
          32 ≤ rest.length) := by
  cases bytes with
  | nil => simp [verifyResponse, getU8]
  | cons bits rest =>
      cases htype : SupportedCertificateTypes.fromBits bits with
      | none => simp [verifyResponse, getU8, htype]
      | some certType =>
          by_cases hle : 32 ≤ rest.length
          · have hok : verifyResponse verifiers challenge (bits :: rest) ≠
                .panic := by
              simp only [verifyResponse, getU8, Outcome.bind_ok, htype,
                splitTo_of_le hle]
              cases (CertCrates.fromSlice (rest.drop 32) : Option σ) with
              | none => simp
              | some sig =>
                  simp only
                  split <;> simp
            simp [hok, hle]
          · have hsplit : (splitTo 32 rest :
                Outcome WispError (Bytes × Bytes)) = .panic :=
              splitTo_eq_panic.mpr (Nat.lt_of_not_le hle)
            simp [verifyResponse, getU8, htype, hsplit, hle]

theorem parseChallenge_eq_panic {bytes : Bytes} :
    parseChallenge bytes = .panic ↔ bytes.length < 2 := by
  match bytes with
  | [] => simp [parseChallenge, getU8]
  | [required] => simp [parseChallenge, getU8]
  | required :: bits :: rest =>
      cases htypes : SupportedCertificateTypes.fromBits bits <;>
        simp [parseChallenge, getU8, htypes]

theorem buildFromBytes_eq_panic {builder : CertAuthProtocolExtensionBuilder σ}
    {bytes : Bytes} :
    (builder.buildFromBytes bytes).2 = .panic ↔
      ¬ builder.LongEnough bytes := by
  cases builder with
  | serverAfterChallenge verifiers challenge required =>
      exact verifyResponse_eq_panic
  | clientBeforeChallenge signer =>
      unfold buildFromBytes
      rw [keepUnless_eq_panic, parseChallenge_eq_panic]
      · simp [LongEnough]
      · simp
  | clientAfterChallenge signer certTypes challenge required =>
      simp [buildFromBytes, LongEnough]
  | serverBeforeChallenge verifiers required =>
      simp [buildFromBytes, LongEnough]

end CertAuthProtocolExtensionBuilder

/-- The server's side of a wispnet: the id of a network and whether its
owner wants it private. -/
structure WispnetServerProtocolExtension where
  id : UInt32
  isPrivate : Bool
deriving Repr, DecidableEq

namespace WispnetServerProtocolExtension

def encode (extension : WispnetServerProtocolExtension) : Bytes :=
  putU32Le extension.id

def buildFromBytes (id : UInt32) (bytes : Bytes) :
    Outcome WispError WispnetServerProtocolExtension :=
  if bytes.length < 1 then .err .packetTooSmall
  else do
    let (isPrivate, _) ← getU8 bytes
    pure ⟨id, isPrivate ≠ 0⟩

theorem buildFromBytes_ne_panic (id : UInt32) (bytes : Bytes) :
    buildFromBytes id bytes ≠ .panic := by
  cases bytes <;> simp [buildFromBytes, getU8]

end WispnetServerProtocolExtension

inductive AnyProtocolExtension where
  | udp
  | motd (motd : MotdProtocolExtension)
  | password (password : PasswordProtocolExtension)
  | certAuth (certAuth : CertAuthProtocolExtension)
  | wispnet (wispnet : WispnetServerProtocolExtension)
  | twisp
deriving DecidableEq

inductive AnyProtocolExtensionBuilder (σ : Type) where
  | udp
  | motd (motd : MotdProtocolExtensionBuilder)
  | password (password : PasswordProtocolExtensionBuilder)
  | certAuth (certAuth : CertAuthProtocolExtensionBuilder σ)
  | wispnet (id : UInt32)
  | twisp

instance : ProtocolExtension AnyProtocolExtension where
  getId
    | .udp => 0x01
    | .motd _ => 0x04
    | .password _ => 0x02
    | .certAuth _ => 0x03
    | .wispnet _ => 0xF1
    | .twisp => 0xF0
  getSupportedPackets
    | .wispnet _ => [0xF1]
    | .twisp => [0xF0]
    | _ => []
  getCongestionStreamTypes
    | .twisp => [0x03]
    | _ => []
  encode
    | .udp => .ok []
    | .motd motd => .ok motd.encode
    | .password password => password.encode
    | .certAuth certAuth => .ok certAuth.encode
    | .wispnet wispnet => .ok wispnet.encode
    | .twisp => .ok []

namespace AnyProtocolExtensionBuilder

variable {σ : Type} [CertCrates σ]

def getId : AnyProtocolExtensionBuilder σ → UInt8
  | .udp => 0x01
  | .motd _ => 0x04
  | .password _ => 0x02
  | .certAuth _ => 0x03
  | .wispnet _ => 0xF1
  | .twisp => 0xF0

def buildFromBytes (builder : AnyProtocolExtensionBuilder σ) (bytes : Bytes)
    (role : Role) :
    AnyProtocolExtensionBuilder σ × Outcome WispError AnyProtocolExtension :=
  match builder with
  | .udp => (builder, .ok .udp)
  | .motd _ =>
      (builder, (MotdProtocolExtension.buildFromBytes bytes role).map .motd)
  | .password inner =>
      let (inner, built) := inner.buildFromBytes bytes
      (.password inner, built.map .password)
  | .certAuth inner =>
      let (inner, built) := inner.buildFromBytes bytes
      (.certAuth inner, built.map .certAuth)
  | .wispnet id =>
      (builder,
        (WispnetServerProtocolExtension.buildFromBytes id bytes).map .wispnet)
  | .twisp => (builder, .ok .twisp)

def buildToExtension (builder : AnyProtocolExtensionBuilder σ) (role : Role) :
    AnyProtocolExtensionBuilder σ × Outcome WispError AnyProtocolExtension :=
  match builder with
  | .udp => (builder, .ok .udp)
  | .motd inner =>
      (builder,
        .ok (.motd (MotdProtocolExtension.buildToExtension inner role)))
  | .password inner => (builder, inner.buildToExtension.map .password)
  | .certAuth inner =>
      let (inner, built) := inner.buildToExtension
      (.certAuth inner, built.map .certAuth)
  | .wispnet id => (builder, .ok (.wispnet ⟨id, false⟩))
  | .twisp => (builder, .ok .twisp)

instance : ProtocolExtensionBuilder (AnyProtocolExtensionBuilder σ)
    AnyProtocolExtension where
  getId := getId
  buildFromBytes := buildFromBytes
  buildToExtension := buildToExtension

/-- Only the two authentication builders read without a guard. -/
def LongEnough : AnyProtocolExtensionBuilder σ → Bytes → Prop
  | .password inner, bytes => inner.LongEnough bytes
  | .certAuth inner, bytes => inner.LongEnough bytes
  | _, _ => True

/-- A build panics exactly on a payload that is too short for the state of
its builder. -/
theorem buildFromBytes_eq_panic (builder : AnyProtocolExtensionBuilder σ)
    (bytes : Bytes) (role : Role) :
    (builder.buildFromBytes bytes role).2 = .panic ↔
      ¬ builder.LongEnough bytes := by
  cases builder with
  | udp => simp [buildFromBytes, LongEnough]
  | motd inner =>
      simp [buildFromBytes, LongEnough,
        MotdProtocolExtension.buildFromBytes_ne_panic]
  | password inner =>
      simp [buildFromBytes, LongEnough,
        PasswordProtocolExtensionBuilder.buildFromBytes_eq_panic]
  | certAuth inner =>
      simp [buildFromBytes, LongEnough,
        CertAuthProtocolExtensionBuilder.buildFromBytes_eq_panic]
  | wispnet id =>
      simp [buildFromBytes, LongEnough,
        WispnetServerProtocolExtension.buildFromBytes_ne_panic]
  | twisp => simp [buildFromBytes, LongEnough]

end AnyProtocolExtensionBuilder

/-- Without the certificate feature there are no signatures. -/
instance : CertCrates Empty := ⟨fun _ => none, nofun, none⟩

end Epoxy
