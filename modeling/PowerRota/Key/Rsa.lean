import PowerRota.Key.Der
import PowerRota.Key.Pem

/-! Which texts hold a key for RSA. Whether the key signs is another matter: a public key is read
like a private one. -/

set_option autoImplicit false

namespace PowerRota.Key.Rsa

def rsaIdentifier : List UInt8 := [0x2a, 0x86, 0x48, 0x86, 0xf7, 0x0d, 0x01, 0x01, 0x01]

def curveIdentifier : List UInt8 := [0x2a, 0x86, 0x48, 0xce, 0x3d, 0x02, 0x01]

def edwardsIdentifier : List UInt8 := [0x2b, 0x65, 0x70]

/-- The first identifier that names a kind of key decides. -/
def isRsa (values : List Der) : Bool :=
  (Der.identifiersIn values).find?
    (fun found => [rsaIdentifier, curveIdentifier, edwardsIdentifier].contains found) ==
      some rsaIdentifier

/-- A key of its own kind, or a key of any kind that says it is for RSA. -/
def isKey (pem : Pem) : Bool :=
  match Der.read? pem.content with
  | none => false
  | some values =>
      if pem.label = "RSA PRIVATE KEY" ∨ pem.label = "RSA PUBLIC KEY" then true
      else if pem.label = "PRIVATE KEY" ∨ pem.label = "PUBLIC KEY" ∨
          pem.label = "CERTIFICATE" then
        isRsa values && Der.anyHoldsString values
      else false

/-- The text from the first mark of a block on; all of it if there is none. -/
def fromMark (text : List Char) : List Char :=
  match Pem.cut? "-----BEGIN".toList text with
  | some (before, _) => text.drop before.length
  | none => text

/-- Whether a text holds a key. Lines before the key do not matter. -/
def isReadable (text : String) : Bool :=
  ((Pem.read? (fromMark text.toList)).map isKey).getD false

end PowerRota.Key.Rsa
