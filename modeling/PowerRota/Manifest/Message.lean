import PowerRota.Manifest.Folder
import PowerRota.Yaml.Decode

/-! Messages of the faults that manifests have, from the outermost circumstance to
the cause. -/

set_option autoImplicit false

namespace PowerRota

open PowerRota.Text

def ActionFault.message (wording : Wording) : ActionFault → String
  | .required field => field ++ " is required"
  | .time fault => (Error.invalidTrigger (.time fault)).message wording
  | .day n => "day " ++ String.ofList (decimalInt n) ++ " out of range"
  | .every fault => fault.message
  | .moment text => "invalid RFC 3339 time " ++ quoted text ++ ": " ++ wording.instant
  | .scheduleType label =>
      "unknown schedule type " ++ quoted label ++
        ", expected cron, daily, weekly, monthly, interval or once"

def ManifestFault.message (wording : Wording) : ManifestFault → String
  | .apiVersion text =>
      "unsupported apiVersion " ++ quoted text ++ ", expected " ++ Manifest.supportedVersion
  | .kind text => "unsupported kind " ++ quoted text ++ ", expected " ++ Manifest.supportedKind
  | .resourceKind label => (Error.invalidSetting (.resourceKind label)).message wording
  | .action which fault => which.label ++ " action: " ++ fault.message wording
  | .schedule name fault => (Error.invalidSchedule name fault).message wording

def DocumentFault.message (wording : Wording) : DocumentFault → String
  | .grammar fault => "invalid YAML: " ++ fault.message wording
  | .data fault => fault.message wording Yaml.Value.dialect
  | .manifest fault => fault.message wording

def DocumentFault.messageIn (wording : Wording) (source : String) (number : Nat)
    (fault : DocumentFault) : String :=
  source ++ ": document " ++ toString number ++ ": " ++ fault.message wording

def LoadFault.message (wording : Wording) : LoadFault → String
  | .folder dir fault => "Failed to read schedules directory " ++ dir ++ ": " ++ fault.message
  | .noFiles dir => "no schedule files (*.yaml, *.yml) found in " ++ dir
  | .file path fault => "Failed to read " ++ path ++ ": " ++ fault.message
  | .document path number fault => fault.messageIn wording path number
  | .duplicateName name first second =>
      "duplicate schedule name " ++ quoted name ++ " in " ++ first ++ " and " ++ second
  | .noSchedules dir => "no schedules defined in " ++ dir
  | .invalid error => error.message wording

namespace ManifestFault

/-- Whether the fault ends the program instead of being reported. -/
def isFatal : ManifestFault → Bool
  | .action _ (.every fault) => fault.isFatal
  | _ => false

end ManifestFault

def DocumentFault.isFatal : DocumentFault → Bool
  | .manifest fault => fault.isFatal
  | _ => false

def LoadFault.isFatal : LoadFault → Bool
  | .document _ _ fault => fault.isFatal
  | _ => false

end PowerRota
