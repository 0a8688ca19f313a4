import PowerRota.Credentials
import PowerRota.Key.Rsa
import PowerRota.Provider.Exchange

/-! Tokens: credentials are exchanged for a token, which is kept and used until it has
little time left. -/

set_option autoImplicit false

namespace PowerRota.Provider

open PowerRota.Calendar PowerRota.Data

structure Token where
  text : String
  expires : Timestamp
  deriving DecidableEq, Repr

namespace Token

def decode (json : Json) : Except Fault Token := do
  let decodeTimestamp : Json → Except Fault Timestamp
    | .string s =>
        match Timestamp.readRelaxed? s with
        | some timestamp => .ok timestamp
        | none => .error .instant
    | other => other.wrongType "an RFC 3339 formatted date and time string"
  match json with
  | .object members =>
      Json.checkUnique ["iamToken", "expiresAt"] members
      return ⟨← Json.required members "iamToken" Json.decodeString,
        ← Json.required members "expiresAt" decodeTimestamp⟩
  | .array items =>
      let expected := "struct IamTokenResponse with 2 elements"
      let text ← Json.element items 0 expected Json.decodeString
      let expires ← Json.element items 1 expected decodeTimestamp
      if 2 < items.length then throw (.wrongLength items.length "fewer elements in array")
      return ⟨text, expires⟩
  | other => other.wrongType "struct IamTokenResponse"

def left (token : Token) (now : Instant) : Int :=
  token.expires.nanosAfter now

end Token

abbrev TokenCache := Option Token

namespace TokenCache

/-- The time a token must have left to be used again, in nanoseconds. -/
def margin : Int := 5 * 60 * 1000000000

/-- The kept token, if it has enough time left. -/
def usable? (cache : TokenCache) (now : Instant) : Option Token :=
  cache.filter fun token => decide (margin < token.left now)

/-- Take in what an exchange gave. After a failure the cache is what it was. -/
def receive (cache : TokenCache) (answer : Except Error Token) :
    TokenCache × Except Error String :=
  match answer with
  | .ok token => (some token, .ok token.text)
  | .error error => (cache, .error error)

/-- A call for a token. `answer` is what an exchange would give now; the last part says
whether one takes place. -/
def take (cache : TokenCache) (now : Instant) (answer : Except Error Token) :
    TokenCache × Except Error String × Bool :=
  match cache.usable? now with
  | some token => (cache, .ok token.text, false)
  | none =>
      let (cache, result) := cache.receive answer
      (cache, result, true)

end TokenCache

/-- What signs assertions with a private key that was read: nothing is wrong with an assertion, and
then it is signed, or something is. -/
structure Signer where
  fault? : String → Assertion → Option String

namespace Signer

/-- Every key that can be read signs. -/
def sound : Signer := ⟨fun _ _ => none⟩

/-- Sign an assertion with a key, which is read first. -/
def sign (signer : Signer) (key : ServiceAccountKey) (assertion : Assertion) :
    Except CloudFault Assertion :=
  if Key.Rsa.isReadable key.privateKey then
    match signer.fault? key.privateKey assertion with
    | none => .ok assertion
    | some reason => .error (.signature reason)
  else .error .privateKey

end Signer

def assertionLifetime : Int := 3600

def assertionOf (endpoints : Endpoints) (key : ServiceAccountKey) (now : Instant) : Assertion :=
  ⟨key.id, key.account, endpoints.tokens, now.second, now.second + assertionLifetime⟩

def tokenRequest (signer : Signer) (endpoints : Endpoints) (credentials : Credentials)
    (now : Instant) : Except Error Request :=
  match credentials with
  | .password token => .ok ⟨.post, endpoints.tokens, none, .password token⟩
  | .serviceAccount key =>
      match signer.sign key (assertionOf endpoints key now) with
      | .ok assertion => .ok ⟨.post, endpoints.tokens, none, .assertion assertion⟩
      | .error fault => .error (.cloud fault)

def tokenOf (endpoints : Endpoints) : Delivery → Except Error Token
  | none => .error (.cloud (.tokenUnsent endpoints.tokens))
  | some reply =>
      if isSuccess reply.status then
        match (Json.read? reply.body).map Token.decode with
        | some (.ok token) => .ok token
        | _ => .error (.cloud .tokenReply)
      else .error (.cloud (.tokenRefused reply.status reply.body))

end PowerRota.Provider
