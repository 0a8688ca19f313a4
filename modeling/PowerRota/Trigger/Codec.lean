import PowerRota.Duration.Codec
import PowerRota.Trigger

/-! Triggers in JSON.

A trigger is an object whose member `type` names its kind, or a list of the kind
and the values. Members of other names are ignored. -/

set_option autoImplicit false

namespace PowerRota.Trigger

open PowerRota.Calendar PowerRota.Data PowerRota.Json

def encode : Trigger → Json
  | .cron expression => .object [("expression", .string expression), ("type", .string "cron")]
  | .daily time => .object [("time", .string time.render), ("type", .string "daily")]
  | .weekly time weekday =>
      .object [("time", .string time.render), ("type", .string "weekly"),
        ("weekday", .int weekday.toNat)]
  | .monthly time day =>
      .object [("day", .int day.toNat), ("time", .string time.render),
        ("type", .string "monthly")]
  | .interval every => .object [("every", every.encode), ("type", .string "interval")]
  | .once timestamp => .object [("at", .string timestamp.renderZulu), ("type", .string "once")]

def decodeKind : Json → Except Fault TriggerKind
  | .string label =>
      match TriggerKind.ofLabel? label with
      | some kind => .ok kind
      | none => .error (.unknownVariant label (TriggerKind.all.map TriggerKind.label))
  | other => other.wrongType "variant identifier"

def decodeTime (json : Json) : Except Fault TimeOfDay := do
  let text ← json.decodeString
  match TimeOfDay.read text with
  | .ok time => .ok time
  | .error fault => .error (.timeOfDay fault)

def decodeTimestamp : Json → Except Fault Timestamp
  | .string text =>
      match Timestamp.readRelaxed? text with
      | some timestamp => .ok timestamp
      | none => .error .instant
  | other => other.wrongType "an RFC 3339 formatted date and time string"

def decodeMembers (members : List (String × Json)) : TriggerKind → Except Fault Trigger
  | .cron => do
      checkMembers [check "expression" decodeString] members
      return .cron (← required members "expression" decodeString)
  | .daily => do
      checkMembers [check "time" decodeTime] members
      return .daily (← required members "time" decodeTime)
  | .weekly => do
      checkMembers [check "time" decodeTime, check "weekday" decodeByte] members
      return .weekly (← required members "time" decodeTime)
        (← required members "weekday" decodeByte)
  | .monthly => do
      checkMembers [check "time" decodeTime, check "day" decodeByte] members
      return .monthly (← required members "time" decodeTime)
        (← required members "day" decodeByte)
  | .interval => do
      checkMembers [check "every" Duration.decode] members
      return .interval (← required members "every" Duration.decode)
  | .once => do
      checkMembers [check "at" decodeTimestamp] members
      return .once (← required members "at" decodeTimestamp)

def listName (kind : TriggerKind) : String :=
  match kind with
  | .cron => "struct variant ActionTrigger::Cron with 1 element"
  | .daily => "struct variant ActionTrigger::Daily with 1 element"
  | .weekly => "struct variant ActionTrigger::Weekly with 2 elements"
  | .monthly => "struct variant ActionTrigger::Monthly with 2 elements"
  | .interval => "struct variant ActionTrigger::Interval with 1 element"
  | .once => "struct variant ActionTrigger::Once with 1 element"

def endList (items : List Json) (count : Nat) (trigger : Trigger) : Except Fault Trigger :=
  if count < items.length then
    .error (.wrongLength items.length
      (if count = 1 then "1 element in sequence" else toString count ++ " elements in sequence"))
  else .ok trigger

def decodeList (items : List Json) (kind : TriggerKind) : Except Fault Trigger :=
  let value {A : Type} (n : Nat) (decode : Json → Except Fault A) : Except Fault A :=
    element items n (listName kind) decode
  match kind with
  | .cron => do endList items 1 (.cron (← value 0 decodeString))
  | .daily => do endList items 1 (.daily (← value 0 decodeTime))
  | .weekly => do
      let time ← value 0 decodeTime
      endList items 2 (.weekly time (← value 1 decodeByte))
  | .monthly => do
      let time ← value 0 decodeTime
      endList items 2 (.monthly time (← value 1 decodeByte))
  | .interval => do endList items 1 (.interval (← value 0 Duration.decode))
  | .once => do endList items 1 (.once (← value 0 decodeTimestamp))

def decode : Json → Except Fault Trigger
  | .object members => do
      let kind ← required members "type" decodeKind
      decodeMembers members kind
  | .array [] => .error (.missingField "type")
  | .array (tag :: items) => do
      let kind ← decodeKind tag
      decodeList items kind
  | other => other.wrongType "internally tagged enum ActionTrigger"

end PowerRota.Trigger
