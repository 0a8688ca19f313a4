import PowerRota.Data.Fault
import PowerRota.Json.Basic
import PowerRota.Number.Binary64

/-! Reading typed values from JSON.

The members of an object are checked in the order they stand in; after that the
missing ones are reported in the order of their declaration. Where an object is
wanted, a list of the member values in that order will do. -/

set_option autoImplicit false

namespace PowerRota.Json

open PowerRota.Data

def dialect : Dialect := ⟨"null", Number.scientific⟩

def found : Json → Found
  | null => .null
  | bool b => .bool b
  | int n => .int n
  | float x => .float x
  | string s => .string s
  | array _ => .sequence
  | object _ => .map

def wrongType {A : Type} (json : Json) (expected : String) : Except Fault A :=
  .error (.wrongType json.found expected)

def decodeString : Json → Except Fault String
  | string s => .ok s
  | other => other.wrongType "a string"

def decodeNat (limit : Nat) (expected : String) : Json → Except Fault Nat
  | int n =>
      if 0 ≤ n ∧ n < limit then .ok n.toNat else .error (.wrongValue (.int n) expected)
  | other => other.wrongType expected

def decodeByte (json : Json) : Except Fault UInt8 :=
  (json.decodeNat 256 "u8").map UInt8.ofNat

abbrev Check := String × (Json → Option Fault)

def check {A : Type} (name : String) (decode : Json → Except Fault A) : Check :=
  (name, fun value => match decode value with | .ok _ => none | .error fault => some fault)

/-- Members that no check names pass. -/
def checkMembers (checks : List Check) (members : List (String × Json)) : Except Fault Unit :=
  match members.findSome? fun (name, value) => (checks.lookup name).bind (· value) with
  | some fault => .error fault
  | none => .ok ()

def checkUnique (names : List String) (members : List (String × Json)) : Except Fault Unit :=
  match names.find? fun name => 1 < (members.filter (·.1 == name)).length with
  | some name => .error (.duplicateField name)
  | none => .ok ()

def required {A : Type} (members : List (String × Json)) (name : String)
    (decode : Json → Except Fault A) : Except Fault A :=
  match members.lookup name with
  | some value => decode value
  | none => .error (.missingField name)

def decodeOption {A : Type} (decode : Json → Except Fault A) : Json → Except Fault (Option A)
  | null => .ok none
  | other => (decode other).map some

def optional {A : Type} (members : List (String × Json)) (name : String)
    (decode : Json → Except Fault A) : Except Fault (Option A) :=
  match members.lookup name with
  | some value => decodeOption decode value
  | none => .ok none

/-- The `n`th value of a list that stands for an object. -/
def element {A : Type} (items : List Json) (n : Nat) (expected : String)
    (decode : Json → Except Fault A) : Except Fault A :=
  match items[n]? with
  | some value => decode value
  | none => .error (.wrongLength n expected)

def decodeItems {A : Type} (decode : Json → Except Fault A) : Json → Except Fault (List A)
  | array items => items.mapM decode
  | other => other.wrongType "a sequence"

end PowerRota.Json
