import PowerRota.CommandLine.Arguments
import PowerRota.Config.File
import PowerRota.Credentials
import PowerRota.Manifest.Message
import PowerRota.Provider.Client
import PowerRota.Schedule.Listing

/-! From a command line to what it asks for: a listing of the jobs, or a daemon that is
ready to go. -/

set_option autoImplicit false

namespace PowerRota

open PowerRota.Calendar PowerRota.CommandLine

inductive LaunchFault where
  | noConfig
  | config (fault : Config.LoadFault)
  | schedules (fault : LoadFault)
  | listing (fault : TriggerFault)
  | credentials (fault : CredentialsFault)
  | contact (error : Error)

def LaunchFault.message (wording : Wording) : LaunchFault → String
  | .noConfig => "missing --config <FILE>"
  | .config fault => fault.message wording
  | .schedules fault => fault.message wording
  | .listing fault => (Error.invalidTrigger fault).message wording
  | .credentials fault => fault.message wording
  | .contact error => "Failed to validate cloud credentials: " ++ error.message wording

/-- All that a daemon starts from. -/
structure Launch where
  settings : Settings
  schedules : List Schedule
  credentials : Credentials
  dryRun : Bool

inductive Performed where
  | listing (text : String)
  | launch (launch : Launch)

def loadSchedules (arguments : Arguments) (tree : Tree) (environment : Environment) :
    Except LaunchFault (Settings × List Schedule) := do
  match arguments.config with
  | none => throw .noConfig
  | some path =>
      let settings ← (Config.loadFrom tree path environment).mapError .config
      let dir := settings.schedulesDir
      let schedules ← (Manifest.readFolder dir (tree.list dir)).mapError .schedules
      return (settings, schedules)

/-- Do what the command line asks for; without a command, get ready to run. -/
def perform (arguments : Arguments) (tree : Tree) (environment : Environment) (now : Instant) :
    Except LaunchFault Performed := do
  let (settings, schedules) ← loadSchedules arguments tree environment
  match arguments.command.getD .run with
  | .check =>
      let location := Location.resolve settings.timezone
      return .listing (← (Schedule.listing schedules location now).mapError .listing)
  | .run =>
      let credentials ←
        (Credentials.resolve tree arguments.keyFile arguments.token).mapError .credentials
      return .launch ⟨settings, schedules, credentials, arguments.dryRun⟩

def Launch.contact {State : Type} (launch : Launch) (now : Instant)
    (answer : State → Provider.Request → State × Provider.Delivery) (provider : State) :
    Except LaunchFault (Provider.Session State) :=
  let session := Provider.Session.start .standard launch.credentials now answer provider
  match session.validateCredentials with
  | (session, .ok _) => .ok session
  | (_, .error error) => .error (.contact error)

end PowerRota
