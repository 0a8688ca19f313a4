import PowerRota.Calendar.Rfc3339
import PowerRota.Data.Fault
import PowerRota.Firing.Rule
import PowerRota.Provider.Status
import PowerRota.Resource
import PowerRota.Text.Quoted

/-! What can go wrong in the rota, by cause, and the message of each cause. -/

set_option autoImplicit false

namespace PowerRota

open PowerRota.Text

inductive ScheduleFault where
  | emptyName
  | emptyResourceId
  | emptyFolder
  | noAction
  | action (action : Action) (fault : TriggerFault)
  deriving DecidableEq, Repr

inductive RegistrationFault where
  | shutDown
  | emptyName
  deriving DecidableEq, Repr

inductive SettingFault where
  | resourceKind (label : String)
  | zeroReloadInterval
  deriving DecidableEq, Repr

inductive FileFault where
  | notFound
  | isDirectory
  | notDirectory
  | notUtf8
  deriving DecidableEq, Repr

/-- What a call to the provider is for: a word and a resource. -/
structure CallPurpose where
  word : String
  resource : Resource
  deriving DecidableEq, Repr

inductive CloudFault where
  | privateKey
  /-- The private key was read and does not sign. -/
  | signature (reason : String)
  | tokenUnsent (url : String)
  | tokenRefused (status : Nat) (body : String)
  | tokenReply
  | unsent (purpose : CallPurpose) (url : String)
  | refused (purpose : CallPurpose) (status : Nat) (body : String)
  | reply (purpose : CallPurpose)
  | operation (purpose : CallPurpose) (id : String) (code : Int) (message : String)
  deriving DecidableEq, Repr

inductive Error where
  | invalidTrigger (fault : TriggerFault)
  | invalidSchedule (name : String) (fault : ScheduleFault)
  | duplicateSchedule (name : String)
  | registration (job : String) (fault : RegistrationFault)
  | schedulerClosed
  | lookback (fault : FiringRule.LookbackFault)
  | invalidSetting (fault : SettingFault)
  | cloud (fault : CloudFault)
  | file (fault : FileFault)
  deriving DecidableEq, Repr

def Calendar.TimeFault.message : Calendar.TimeFault → String
  | .format text => "invalid time format " ++ quoted text ++ ", expected HH:MM[:SS]"
  | .range hour minute second =>
      "time out of range " ++ Calendar.TimeOfDay.partsText hour minute second

def Cron.Fault.message (wording : Wording) : Cron.Fault → String
  | .fieldCount count => toString count ++ " fields, expected 5 or 6"
  | .weekday atom => "day of week " ++ atom ++ " out of range 0-7"
  | .malformed => wording.cron

def TriggerFault.message (wording : Wording) : TriggerFault → String
  | .time fault => fault.message
  | .weekday n => "invalid weekday " ++ toString n ++ ", expected 0-6 with 0 = Sunday"
  | .dayOfMonth n => "invalid day of month " ++ toString n ++ ", expected 1-31"
  | .zeroInterval => "interval must be greater than zero"
  | .cron expression fault =>
      "invalid cron expression " ++ quoted expression ++ ": " ++ fault.message wording

def ScheduleFault.message (wording : Wording) : ScheduleFault → String
  | .emptyName => "name must not be empty"
  | .emptyResourceId => "resource id must not be empty"
  | .emptyFolder => "resource folder_id must not be empty"
  | .noAction => "at least one of start or stop must be enabled"
  | .action which fault =>
      which.label ++ " action: invalid trigger: " ++ fault.message wording

def RegistrationFault.message : RegistrationFault → String
  | .shutDown => "scheduler is shut down"
  | .emptyName => "job name must not be empty"

def SettingFault.message : SettingFault → String
  | .resourceKind label =>
      "unknown resource type " ++ quoted label ++ ", expected vm or k8s_cluster"
  | .zeroReloadInterval => "reload interval must be greater than zero"

def FileFault.message : FileFault → String
  | .notFound => "No such file or directory (os error 2)"
  | .isDirectory => "Is a directory (os error 21)"
  | .notDirectory => "Not a directory (os error 20)"
  | .notUtf8 => "stream did not contain valid UTF-8"

def CallPurpose.text (purpose : CallPurpose) : String :=
  purpose.word ++ " " ++ purpose.resource.kind.label ++ " " ++ purpose.resource.id

def undecodable : String := "error decoding response body"

def unsentTo (url : String) : String := "error sending request for url (" ++ url ++ ")"

def CloudFault.message : CloudFault → String
  | .privateKey => "sign iam jwt: Invalid service account private key: InvalidKeyFormat"
  | .signature reason => "sign iam jwt: " ++ reason
  | .tokenUnsent url => "iam token request: " ++ unsentTo url
  | .tokenRefused status body =>
      "iam token request: " ++ Provider.statusText status ++ ": " ++ body
  | .tokenReply => "iam token response: " ++ undecodable
  | .unsent purpose url => purpose.text ++ ": " ++ unsentTo url
  | .refused purpose status body =>
      purpose.text ++ ": " ++ Provider.statusText status ++ ": " ++
        String.ofList (trim body.toList)
  | .reply purpose => purpose.text ++ ": invalid response: " ++ undecodable
  | .operation purpose id code message =>
      purpose.text ++ ": operation " ++ id ++ " failed: code " ++
        String.ofList (decimalInt code) ++ ": " ++ message

def Error.message (wording : Wording) : Error → String
  | .invalidTrigger fault => "invalid trigger: " ++ fault.message wording
  | .invalidSchedule name fault =>
      "invalid schedule " ++ name ++ ": " ++ fault.message wording
  | .duplicateSchedule name => "duplicate schedule name: " ++ name
  | .registration job fault =>
      "failed to register job " ++ job ++ ": " ++ fault.message
  | .schedulerClosed => "scheduler is shut down"
  | .lookback (.noPriorFire before) => "no fire found before " ++ before.renderPlain
  | .lookback (.notReconcilable kind) =>
      "last fire time is undefined for " ++ kind.label ++ " triggers"
  | .invalidSetting fault => "invalid configuration: " ++ fault.message
  | .cloud fault => "cloud api error: " ++ fault.message
  | .file fault => "io error: " ++ fault.message

def Data.Fault.message (wording : Wording) (dialect : Data.Dialect) : Data.Fault → String
  | .missingField name => "missing field " ++ Data.backticked name
  | .duplicateField name => "duplicate field " ++ Data.backticked name
  | .unknownField name known =>
      "unknown field " ++ Data.backticked name ++ ", " ++ Data.alternatives known
  | .unknownVariant name known =>
      "unknown variant " ++ Data.backticked name ++ ", " ++ Data.alternatives known
  | .wrongType found expected =>
      "invalid type: " ++ found.describe dialect ++ ", expected " ++ expected
  | .wrongValue found expected =>
      "invalid value: " ++ found.describe dialect ++ ", expected " ++ expected
  | .wrongLength length expected =>
      "invalid length " ++ toString length ++ ", expected " ++ expected
  | .timeOfDay fault => (Error.invalidTrigger (.time fault)).message wording
  | .instant => wording.instant
  | .durationOverflow => "overflow deserializing Duration"

end PowerRota
