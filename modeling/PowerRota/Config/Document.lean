import PowerRota.Config.Settings
import PowerRota.Yaml.Value

/-! Settings written as one YAML document, without layers.

Here nothing converts: a number must be written as a number. Settings that are
absent have their defaults, and unknown ones are passed over. -/

set_option autoImplicit false

namespace PowerRota.Settings

open PowerRota.Yaml

inductive DocumentFault where
  | grammar (fault : Yaml.Fault)
  | mismatch
  | length (fault : DurationFault)
  deriving DecidableEq, Repr

namespace DocumentFault

def isFatal : DocumentFault → Bool
  | .length fault => fault.isFatal
  | _ => false

def message (wording : Wording) : DocumentFault → String
  | .grammar fault => fault.message wording
  | _ => wording.yaml

end DocumentFault

abbrev Decoding (A : Type) := Node → Except DocumentFault A

def through {A : Type} (document : Document) (decode : Decoding A) : Decoding A
  | .alias _ number =>
      match document.find? number with
      | some target => decode target
      | none => .error (.grammar .unknownAlias)
  | node => decode node

def decodeText : Decoding String
  | .scalar _ _ text => .ok text
  | _ => .error .mismatch

def decodeFlag : Decoding Bool
  | .scalar _ .plain text =>
      match Scalar.bool? text with
      | some b => .ok b
      | none => .error .mismatch
  | _ => .error .mismatch

def decodeCount (limit : Nat) : Decoding Nat
  | .scalar _ .plain text =>
      match Scalar.int? text.toList with
      | some n =>
          if text.toList.head? ≠ some '-' ∧ n < limit then .ok n.toNat else .error .mismatch
      | none => .error .mismatch
  | _ => .error .mismatch

def decodeLength : Decoding Duration
  | node@(.scalar tag style _) => do
      if (localTag? tag).isSome then throw .mismatch
      let document : Document := ⟨node, [], 1⟩
      let value ← document.value.mapError .grammar
      match style, value with
      | _, .string text => (Duration.read text).mapError .length
      | _, .int n =>
          if n < 0 then throw .mismatch
          else
            match Duration.ofSecs? n.toNat with
            | some d => return d
            | none => throw .mismatch
      | _, .float x => (Duration.ofFloat x).mapError .length
      | _, _ => throw .mismatch
  | _ => .error .mismatch

def names : List String := [
  "timezone", "max_concurrent_jobs", "validation_interval", "reload_interval",
  "shutdown_timeout", "metrics_enabled", "metrics_port", "schedules_dir"]

def change (document : Document) (settings : Settings) (name : String) (node : Node) :
    Except DocumentFault Settings := do
  let text := through document decodeText
  let length := through document decodeLength
  match name with
  | "timezone" => return { settings with timezone := ← text node }
  | "max_concurrent_jobs" =>
      return { settings with maxConcurrentJobs := ← through document (decodeCount (Number.capacity 64)) node }
  | "validation_interval" => return { settings with validationInterval := ← length node }
  | "reload_interval" => return { settings with reloadInterval := ← length node }
  | "shutdown_timeout" => return { settings with shutdownTimeout := ← length node }
  | "metrics_enabled" =>
      return { settings with metricsEnabled := ← through document decodeFlag node }
  | "metrics_port" =>
      return { settings with metricsPort := ← through document (decodeCount (Number.capacity 16)) node }
  | "schedules_dir" => return { settings with schedulesDir := ← text node }
  | _ => return settings

def changeAll (document : Document) :
    Settings → (seen : List String) → List (Node × Node) → Except DocumentFault Settings
  | settings, _, [] => .ok settings
  | settings, seen, (key, node) :: rest => do
      let name ← through document decodeText key
      if names.contains name && seen.contains name then throw .mismatch
      changeAll document (← change document settings name node) (name :: seen) rest

def ofDocument (document : Document) : Except DocumentFault Settings :=
  through document (fun
    | .mapping _ entries => changeAll document standard [] entries
    | .scalar _ .plain "" => .ok standard
    | _ => .error .mismatch) document.root

def ofYaml (text : String) : Except DocumentFault Settings :=
  match Document.ofText text with
  | [] => .ok standard
  | .error fault :: _ => .error (.grammar fault)
  | .ok document :: others => do
      let settings ← ofDocument document
      if others.isEmpty then return settings else throw (.grammar .severalDocuments)

end PowerRota.Settings
