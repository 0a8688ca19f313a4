import PowerRota.Config.Conversion
import PowerRota.Config.Settings
import PowerRota.Files.Path

/-! Settings from layers: the defaults, a file, and variables of the environment.

A later layer wins over an earlier one, name by name. A folder of schedules that is
not absolute is taken from the folder of the file. -/

set_option autoImplicit false

namespace PowerRota

/-- The variables that the program finds, with their values. -/
abbrev Environment := List (String × String)

def Environment.value? (environment : Environment) (name : String) : Option String :=
  environment.lookup name

end PowerRota

namespace PowerRota.Config

open Text

/-- Why there are no settings. -/
inductive LoadFault where
  | folder (path : String)
  | source (path : String)
  | key
  | conversion (name : String)
  | length (fault : LengthFault)
  | limit (fault : SettingsFault)
  deriving Repr

namespace LoadFault

/-- Whether the fault ends the program instead of being reported. -/
def isFatal : LoadFault → Bool
  | .key => true
  | .length (.text fault) => fault.isFatal
  | _ => false

end LoadFault

def defaults : Table := [
  ("timezone", .string ""),
  ("max_concurrent_jobs", .int 5),
  ("validation_interval", .string "10m"),
  ("reload_interval", .string "10s"),
  ("shutdown_timeout", .string "5m"),
  ("metrics_enabled", .bool false),
  ("metrics_port", .int 9090),
  ("schedules_dir", .string "schedules")]

def nestedName : List Char → List Char
  | '_' :: '_' :: rest => '.' :: nestedName rest
  | c :: rest => c :: nestedName rest
  | [] => []

def variablePrefix : List Char := "cloudnap_".toList

def variableKey? (name : String) : Option String :=
  let lower := (lowerAscii name).toList
  if variablePrefix.isPrefixOf lower then
    some (String.ofList (nestedName (lower.drop variablePrefix.length)))
  else none

/-- The value of a variable: a truth value in any case, a number, or text. -/
def variableValue (text : String) : Value :=
  let lower := lowerAscii text
  if lower = "true" then .bool true
  else if lower = "false" then .bool false
  else
    match Value.word? (readInt text.toList), Number.readFloat? text.toList with
    | some n, _ => .int n
    | none, some x => .float x
    | none, none => .string text

def environmentLayer (environment : Environment) : Table :=
  environment.filterMap fun (name, text) =>
    (variableKey? name).map fun key => (key, variableValue text)

/-- The three layers, one over the other. -/
def combine (file : Table) (environment : Environment) : Table :=
  (defaults.layer file).layer (environmentLayer environment)

def convert {A : Type} (table : Table) (name : String) (convert? : Value → Option A) :
    Except LoadFault A :=
  match (table.get? name).bind convert? with
  | some value => .ok value
  | none => .error (.conversion name)

def length (table : Table) (name : String) : Except LoadFault Duration :=
  match table.get? name with
  | some value => value.toDuration.mapError .length
  | none => .error (.conversion name)

def typed (table : Table) : Except LoadFault Settings := do
  return {
    timezone := ← convert table "timezone" Value.toText?
    maxConcurrentJobs := ← convert table "max_concurrent_jobs" (Value.toCount? (Number.capacity 64))
    validationInterval := ← length table "validation_interval"
    reloadInterval := ← length table "reload_interval"
    shutdownTimeout := ← length table "shutdown_timeout"
    metricsEnabled := ← convert table "metrics_enabled" Value.toBool?
    metricsPort := ← convert table "metrics_port" (Value.toCount? (Number.capacity 16))
    schedulesDir := ← convert table "schedules_dir" Value.toText? }

/-- Take the folder of schedules from the folder of the file. -/
def placed (path : String) (settings : Settings) : Settings :=
  if Path.isAbsolute settings.schedulesDir then settings
  else
    let base := (Path.parent? path).getD "."
    { settings with
      schedulesDir :=
        if settings.schedulesDir = "" && base != "" && base.toList.getLast? != some '/' then base ++ "/"
        else Path.below base settings.schedulesDir }

def load (path text : String) (environment : Environment) : Except LoadFault Settings := do
  let file ← match Table.ofText text with
    | .ok table => pure table
    | .error .key => throw .key
    | .error _ => throw (.source path)
  let settings ← typed (combine file environment)
  match settings.validate with
  | .ok _ => return placed path settings
  | .error fault => throw (.limit fault)

def candidates (path : String) : List String :=
  [path, path ++ ".yaml", path ++ ".yml"]

end PowerRota.Config
