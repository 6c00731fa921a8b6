/-
How a WebSocket is opened: what the server takes for an upgrade request, what
it answers and where the request leads, and what the client asks for and takes
for an answer.
-/
import Epoxy.HeaderLists
import Epoxy.IndexPage
import Epoxy.ServerGate

namespace Epoxy

open ByteCursor HttpValues HeaderLists Server
open HtmlTokens (Text)

/-- Header values and names from text, the SHA-1 digest and base64. -/
structure WebCrates where
  headerValue : Text → Option HeaderValue
  headerName : Text → Option String
  sha1 : Bytes → Bytes
  base64 : Bytes → Text

/-- What is relied on: visible text is a header value, and base64 is
visible. -/
structure WebCrates.Documented (crates : WebCrates) : Prop where
  headerValue : ∀ text : Text, (∀ c ∈ text, isVisible c = true) →
    crates.headerValue text = some (ofText text)
  base64 : ∀ bytes, ∀ c ∈ crates.base64 bytes, isVisible c = true

namespace Server

structure HttpResponse where
  status : Nat
  headers : HeaderMap

def isAsciiWhitespace (byte : UInt8) : Bool :=
  byte = 32 || byte = 9 || byte = 10 || byte = 12 || byte = 13

def toAsciiLowercase (byte : UInt8) : UInt8 :=
  if 65 ≤ byte ∧ byte ≤ 90 then byte + 32 else byte

inductive UpgradeError where
  | missingKey
  | invalidVersion
  | failedToBuild
deriving Repr, DecidableEq

def UpgradeError.message : UpgradeError → String
  | .missingKey => "missing Sec-WebSocket-Key"
  | .invalidVersion => "invalid Sec-WebSocket-Version, not 13"
  | .failedToBuild => "failed to build upgrade response"

end Server

/-- What a client of a WebSocket refuses an answer with. -/
inductive VerifyError where
  | wsInvalidStatusCode (status expected : Nat)
  | wsInvalidUpgradeHeader (value : Text)
  | wsInvalidConnectionHeader (value : Text)
deriving Repr, DecidableEq

namespace EpoxyWebSocket

/-- The text of the first header, or none. -/
def headerText (headers : HeaderMap) (name : String) : Text :=
  ((get headers name).bind toStr).getD []

def verify (response : HttpResponse) : Except VerifyError Unit :=
  if response.status ≠ 101 then
    .error (.wsInvalidStatusCode response.status 101)
  else
    let upgradeHeader := headerText response.headers "upgrade"
    if !eqIgnoreAsciiCase upgradeHeader "websocket".toList then
      .error (.wsInvalidUpgradeHeader upgradeHeader)
    else
      let connectionHeader := headerText response.headers "connection"
      if !eqIgnoreAsciiCase connectionHeader "Upgrade".toList then
        .error (.wsInvalidConnectionHeader connectionHeader)
      else .ok ()

end EpoxyWebSocket

section Tokens

variable {headers : HeaderMap} {header : String} {value : Bytes}

/-- A field lists a value: it stands between commas with white space around it,
in whatever letters. -/
def Lists (field value : Bytes) : Prop :=
  ∃ left token right : Bytes, Between 44 (left ++ token ++ right) field ∧
    left.all isAsciiWhitespace = true ∧
    right.all isAsciiWhitespace = true ∧
    token.map toAsciiLowercase = value.map toAsciiLowercase

end Tokens

section Opening

variable {crates : WebCrates} {config : WispConfig}
  {useRealIpHeaders : Bool} {statsEndpoint : Option String}
  {req : HttpRequest}

variable {host key userAgent : Text} {protocols : List Text}
  {others : List (Text × Text)} {headers : HeaderMap}

end Opening

end Epoxy
