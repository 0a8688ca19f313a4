import PowerRota.Text.Quoted

/-! What is wrong with a YAML text. -/

set_option autoImplicit false

namespace PowerRota.Yaml

inductive Fault where
  /-- The text does not follow the grammar at this place; both count from zero. -/
  | grammar (line column : Nat)
  | character
  | unknownAlias
  | duplicateKey
  | wideInteger
  | tagMismatch
  | tooDeep
  | tooManyAliases
  | severalDocuments
  deriving DecidableEq, Repr

def Fault.message (wording : Wording) : Fault → String
  | .tooManyAliases => "repetition limit exceeded"
  | .severalDocuments =>
      "deserializing from YAML containing more than one document is not supported"
  | _ => wording.yaml

end PowerRota.Yaml
