import PowerRota.Schedule
import PowerRota.Trigger.Codec

/-! Schedules and resources in JSON. -/

set_option autoImplicit false

namespace PowerRota

open PowerRota.Data PowerRota.Json

namespace ResourceKind

def labels : List String := ResourceKind.all.map ResourceKind.label

def decodeLabel (label : String) : Except Fault ResourceKind :=
  match ofLabel? label with
  | some kind => .ok kind
  | none => .error (.unknownVariant label labels)

/-- A label, or an object with the label as its only member and null for its value. -/
def decode : Json → Except Fault ResourceKind
  | .string label => decodeLabel label
  | .object [(label, value)] => do
      let kind ← decodeLabel label
      match value with
      | .null => return kind
      | other => other.wrongType "unit"
  | .object _ => .error (.wrongValue .map "map with a single key")
  | other => other.wrongType "string or map"

end ResourceKind

def endObjectList {A : Type} (items : List Json) (count : Nat) (value : A) : Except Fault A :=
  if count < items.length then .error (.wrongLength items.length "fewer elements in array")
  else .ok value

namespace Resource

def encode (resource : Resource) : Json :=
  .object [("folder_id", .string resource.folder), ("id", .string resource.id),
    ("kind", .string resource.kind.label)]

def decode : Json → Except Fault Resource
  | .object members => do
      checkMembers
        [check "kind" ResourceKind.decode, check "id" decodeString, check "folder_id" decodeString]
        members
      return ⟨← required members "kind" ResourceKind.decode, ← required members "id" decodeString,
        ← required members "folder_id" decodeString⟩
  | .array items => do
      let expected := "struct ResourceRef with 3 elements"
      let kind ← element items 0 expected ResourceKind.decode
      let id ← element items 1 expected decodeString
      let folder ← element items 2 expected decodeString
      endObjectList items 3 ⟨kind, id, folder⟩
  | other => other.wrongType "struct ResourceRef"

end Resource

namespace Schedule

/-- Actions without a trigger are left out. -/
def encode (schedule : Schedule) : Json :=
  let action (name : String) (trigger : Option Trigger) : List (String × Json) :=
    match trigger with
    | some trigger => [(name, trigger.encode)]
    | none => []
  .object ([("name", .string schedule.name), ("resource", schedule.resource.encode)] ++
    action "start" schedule.start ++ action "stop" schedule.stop)

def decode : Json → Except Fault Schedule
  | .object members => do
      checkMembers
        [check "name" decodeString, check "resource" Resource.decode,
          check "start" (decodeOption Trigger.decode), check "stop" (decodeOption Trigger.decode)]
        members
      return ⟨← required members "name" decodeString, ← required members "resource" Resource.decode,
        ← optional members "start" Trigger.decode, ← optional members "stop" Trigger.decode⟩
  | .array items => do
      let expected := "struct ScheduleSpec with 4 elements"
      let name ← element items 0 expected decodeString
      let resource ← element items 1 expected Resource.decode
      let start ← decodeOption Trigger.decode (items[2]?.getD .null)
      let stop ← decodeOption Trigger.decode (items[3]?.getD .null)
      endObjectList items 4 ⟨name, resource, start, stop⟩
  | other => other.wrongType "struct ScheduleSpec"

end Schedule

end PowerRota
