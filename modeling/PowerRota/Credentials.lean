import PowerRota.Files.Tree
import PowerRota.Json.Decode
import PowerRota.Json.Reader

/-! What the rota shows to get in: the key of a service account, or a password token.

A key is preferred to a token, even when its file turns out to be of no use. -/

set_option autoImplicit false

namespace PowerRota

open PowerRota.Data PowerRota.Text

structure ServiceAccountKey where
  id : String
  account : String
  privateKey : String
  deriving DecidableEq, Repr

inductive Credentials where
  | serviceAccount (key : ServiceAccountKey)
  | password (token : String)
  deriving DecidableEq, Repr

inductive CredentialsFault where
  | unreadable (path : String) (fault : FileFault)
  | malformed (path : String)
  | incomplete (path : String)
  | missing
  deriving DecidableEq, Repr

def CredentialsFault.message (wording : Wording) : CredentialsFault → String
  | .unreadable path fault =>
      "Failed to read service account key " ++ path ++ ": " ++ fault.message
  | .malformed path => "Invalid service account key " ++ path ++ ": " ++ wording.json
  | .incomplete path =>
      "service account key " ++ path ++ " is missing id or service_account_id"
  | .missing =>
      "no credentials: pass --sa-key (YC_SERVICE_ACCOUNT_KEY_FILE) or --token (YC_TOKEN)"

namespace ServiceAccountKey

def decode : Json → Except Fault ServiceAccountKey
  | .object members => do
      Json.checkUnique ["id", "service_account_id", "private_key"] members
      return ⟨← Json.required members "id" Json.decodeString,
        ← Json.required members "service_account_id" Json.decodeString,
        ← Json.required members "private_key" Json.decodeString⟩
  | .array items => do
      let expected := "struct ServiceAccountKey with 3 elements"
      let id ← Json.element items 0 expected Json.decodeString
      let account ← Json.element items 1 expected Json.decodeString
      let privateKey ← Json.element items 2 expected Json.decodeString
      if 3 < items.length then throw (.wrongLength items.length "fewer elements in array")
      return ⟨id, account, privateKey⟩
  | other => other.wrongType "struct ServiceAccountKey"

def ofFile (tree : Tree) (path : String) : Except CredentialsFault ServiceAccountKey := do
  let text ← (tree.readText path).mapError (.unreadable path)
  match (Json.read? text).map decode with
  | some (.ok key) =>
      if key.id = "" ∨ key.account = "" then throw (.incomplete path)
      return key
  | _ => throw (.malformed path)

def describe (key : ServiceAccountKey) : String :=
  "ServiceAccountKey \x7b id: " ++ quoted key.id ++ ", service_account_id: " ++
    quoted key.account ++ ", .. \x7d"

end ServiceAccountKey

namespace Credentials

/-- Pick the credentials: the key if a file is named, else the token. -/
def resolve (tree : Tree) (keyFile token : Option String) :
    Except CredentialsFault Credentials :=
  match keyFile with
  | some path => (ServiceAccountKey.ofFile tree path).map .serviceAccount
  | none =>
      let token := trim (token.getD "").toList
      if token.isEmpty then .error .missing else .ok (.password (String.ofList token))

def label : Credentials → String
  | .serviceAccount _ => "service_account_key"
  | .password _ => "oauth_token"

/-- What may be shown of credentials: no secret. -/
def describe : Credentials → String
  | .serviceAccount key => "ServiceAccountKey(" ++ key.describe ++ ")"
  | .password _ => "OAuthToken(***)"

end Credentials

end PowerRota
