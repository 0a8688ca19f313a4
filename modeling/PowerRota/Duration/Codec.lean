import PowerRota.Duration
import PowerRota.Json.Decode

/-! Durations in JSON: an object of seconds and nanoseconds, and nothing else.

Nanoseconds beyond a second are carried into the seconds. -/

set_option autoImplicit false

namespace PowerRota.Duration

open PowerRota.Data PowerRota.Json

def encode (d : Duration) : Json :=
  .object [("nanos", .int d.nanos), ("secs", .int d.secs)]

def ofCarried (secs nanos : Nat) : Except Fault Duration :=
  match ofParts? (secs + nanos / 1000000000) (nanos % 1000000000) with
  | some d => .ok d
  | none => .error .durationOverflow

def fieldNames : List String := ["secs", "nanos"]

def memberFault? : List (String × Json) → Option Fault
  | [] => none
  | (name, value) :: rest =>
      let fault? : Option Fault :=
        if name = "secs" then (check name (decodeNat (Number.capacity 64) "u64")).2 value
        else if name = "nanos" then (check name (decodeNat (Number.capacity 32) "u32")).2 value
        else some (.unknownField name fieldNames)
      fault? <|> memberFault? rest

def decode : Json → Except Fault Duration
  | .object members => do
      match memberFault? members with
      | some fault => .error fault
      | none =>
          let secs ← required members "secs" (decodeNat (Number.capacity 64) "u64")
          let nanos ← required members "nanos" (decodeNat (Number.capacity 32) "u32")
          ofCarried secs nanos
  | .array items => do
      let secs ← element items 0 "struct Duration" (decodeNat (Number.capacity 64) "u64")
      let nanos ← element items 1 "struct Duration" (decodeNat (Number.capacity 32) "u32")
      let d ← ofCarried secs nanos
      if 2 < items.length then .error (.wrongLength items.length "2 elements in sequence")
      else return d
  | other => other.wrongType "struct Duration"

end PowerRota.Duration
