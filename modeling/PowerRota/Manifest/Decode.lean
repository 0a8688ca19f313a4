import PowerRota.Manifest
import PowerRota.Yaml.Decode

/-! Manifests from the values of YAML documents. -/

set_option autoImplicit false

namespace PowerRota

open PowerRota.Yaml PowerRota.Yaml.Value

def ActionEntry.decode (value : Value) : Except Data.Fault ActionEntry := do
  let string := decodeOption decodeString
  let day := decodeOption decodeInt
  let fields ← value.fields "struct ActionConfig"
    [check "enabled" decodeBool, check "time" string, check "crontab" string, check "day" day,
      check "every" string, check "at" string]
  return {
    enabled := ← withDefault fields "enabled" false decodeBool
    time := ← withDefault fields "time" none string
    crontab := ← withDefault fields "crontab" none string
    day := ← withDefault fields "day" none day
    every := ← withDefault fields "every" none string
    moment := ← withDefault fields "at" none string }

namespace Manifest

def decodeResource (value : Value) : Except Data.Fault (String × String × String) := do
  let fields ← value.fields "struct ManifestResource"
    [check "type" decodeString, check "id" decodeString, check "folder_id" decodeString]
  return (← required fields "type" decodeString, ← required fields "id" decodeString,
    ← required fields "folder_id" decodeString)

def decodeActions (value : Value) : Except Data.Fault (Option ActionEntry × Option ActionEntry) := do
  let entry := decodeOption ActionEntry.decode
  let fields ← value.fields "struct ManifestActions" [check "start" entry, check "stop" entry]
  return (← withDefault fields "start" none entry, ← withDefault fields "stop" none entry)

structure Body where
  scheduleType : String
  resource : String × String × String
  actions : Option ActionEntry × Option ActionEntry

def decodeBody (value : Value) : Except Data.Fault Body := do
  let fields ← value.fields "struct ManifestSpec"
    [check "type" decodeString, check "resource" decodeResource, check "actions" decodeActions]
  return ⟨← required fields "type" decodeString, ← required fields "resource" decodeResource,
    ← withDefault fields "actions" (none, none) decodeActions⟩

def decodeMetadata (value : Value) : Except Data.Fault String := do
  let fields ← value.fields "struct Metadata" [check "name" decodeString]
  required fields "name" decodeString

def decode (value : Value) : Except Data.Fault Manifest := do
  let fields ← value.fields "struct ScheduleManifest"
    [check "apiVersion" decodeString, check "kind" decodeString, check "metadata" decodeMetadata,
      check "spec" decodeBody]
  let apiVersion ← required fields "apiVersion" decodeString
  let kind ← required fields "kind" decodeString
  let name ← required fields "metadata" decodeMetadata
  let body ← required fields "spec" decodeBody
  let (resourceKind, resourceId, folder) := body.resource
  let (start, stop) := body.actions
  return ⟨apiVersion, kind, name, body.scheduleType, resourceKind, resourceId, folder, start, stop⟩

end Manifest

end PowerRota
