import PowerRota.Manifest.Decode

/-! The manifests of one text.

A text may hold several documents; those that are null declare nothing. The first
document that is no valid manifest refuses the whole text. -/

set_option autoImplicit false

namespace PowerRota

inductive DocumentFault where
  | grammar (fault : Yaml.Fault)
  | data (fault : Data.Fault)
  | manifest (fault : ManifestFault)
  deriving Repr

namespace Manifest

/-- The schedule of a document; null declares none. -/
def scheduleOf (document : Except Yaml.Fault Yaml.Value) :
    Except DocumentFault (Option Schedule) := do
  let value ← document.mapError .grammar
  match value.untagged with
  | .null => return none
  | _ =>
      let manifest ← (decode value).mapError .data
      return some (← manifest.schedule.mapError .manifest)

/-- The schedules of numbered documents, in order; a fault comes with its number. -/
def schedulesOf : (number : Nat) → List (Except Yaml.Fault Yaml.Value) →
    Except (Nat × DocumentFault) (List Schedule)
  | _, [] => .ok []
  | number, document :: rest => do
      let schedule ← (scheduleOf document).mapError fun fault => (number, fault)
      let others ← schedulesOf (number + 1) rest
      return schedule.toList ++ others

def readText (text : String) : Except (Nat × DocumentFault) (List Schedule) :=
  schedulesOf 0 (Yaml.Value.ofText text)

end Manifest

end PowerRota
