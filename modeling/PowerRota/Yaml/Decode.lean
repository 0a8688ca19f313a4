import PowerRota.Data.Fault
import PowerRota.Yaml.Value

/-! Reading typed values from YAML values.

Tags are passed over. Entries are checked in the order they stand in; after that
the missing ones are reported in the order of their declaration. Where a map is
wanted, null counts as an empty one. -/

set_option autoImplicit false

namespace PowerRota.Yaml.Value

open PowerRota.Data (Dialect Found)

def dialect : Dialect := ⟨"unit value", Number.plainWithPoint⟩

def untagged : Value → Value
  | .tagged _ value => untagged value
  | value => value

def found : Value → Found
  | .null => .null
  | .bool b => .bool b
  | .int n => .int n
  | .float x => .float x
  | .string s => .string s
  | .sequence _ => .sequence
  | .mapping _ => .map
  | .tagged _ _ => .taggedValue

def wrongType {A : Type} (value : Value) (expected : String) : Except Data.Fault A :=
  .error (.wrongType value.untagged.found expected)

def decodeString (value : Value) : Except Data.Fault String :=
  match value.untagged with
  | .string s => .ok s
  | _ => value.wrongType "a string"

def decodeBool (value : Value) : Except Data.Fault Bool :=
  match value.untagged with
  | .bool b => .ok b
  | _ => value.wrongType "a boolean"

def decodeInt (value : Value) : Except Data.Fault Int :=
  match value.untagged with
  | .int n => if n < Number.capacity 63 then .ok n else .error (.wrongValue (.int n) "i64")
  | _ => value.wrongType "i64"

def decodeOption {A : Type} (decode : Value → Except Data.Fault A) :
    Value → Except Data.Fault (Option A)
  | .null => .ok none
  | value => (decode value).map some

def entries (value : Value) (expected : String) : Except Data.Fault (List (Value × Value)) :=
  match value.untagged with
  | .mapping entries => .ok entries
  | .null => .ok []
  | _ => value.wrongType expected

abbrev Check := String × (Value → Option Data.Fault)

def check {A : Type} (name : String) (decode : Value → Except Data.Fault A) : Check :=
  (name, fun value => match decode value with | .ok _ => none | .error fault => some fault)

def fieldsFrom (checks : List Check) (seen : List String) :
    List (Value × Value) → Except Data.Fault (List (String × Value))
  | [] => .ok []
  | (key, value) :: rest =>
      match key.untagged with
      | .string name =>
          match checks.lookup name with
          | some fault? =>
              if seen.contains name then .error (.duplicateField name)
              else
                match fault? value with
                | some fault => .error fault
                | none => do return (name, value) :: (← fieldsFrom checks (name :: seen) rest)
          | none => fieldsFrom checks seen rest
      | _ => key.wrongType "field identifier"

def fields (value : Value) (expected : String) (checks : List Check) :
    Except Data.Fault (List (String × Value)) := do
  fieldsFrom checks [] (← value.entries expected)

def required {A : Type} (fields : List (String × Value)) (name : String)
    (decode : Value → Except Data.Fault A) : Except Data.Fault A :=
  match fields.lookup name with
  | some value => decode value
  | none => .error (.missingField name)

def withDefault {A : Type} (fields : List (String × Value)) (name : String) (default : A)
    (decode : Value → Except Data.Fault A) : Except Data.Fault A :=
  match fields.lookup name with
  | some value => decode value
  | none => .ok default

end PowerRota.Yaml.Value
