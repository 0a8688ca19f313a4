import PowerRota.Config.Value
import PowerRota.Data.Fault
import PowerRota.Duration

/-! From untyped values to the types of settings.

Scalars convert freely: numbers and truth values into one another, text into both,
and any scalar into text. Null, lists and tables are no scalars. -/

set_option autoImplicit false

namespace PowerRota.Config

open Text

inductive LengthFault where
  | text (fault : DurationFault)
  | negative
  | wrongType (found : Data.Found)
  deriving Repr

namespace Value

/-- Exactly the digits of a number below two to the 64; one plus sign may stand
before them. -/
def readWord? (text : List Char) : Option Nat :=
  let digits := match text with
    | '+' :: rest => rest
    | _ => text
  (readNat digits).filter (· < Number.capacity 64)

/-- Round to the nearest whole number, a half away from zero, and keep within the
64 bits that a count has. -/
def roundFloat (x : Float) : Nat :=
  match Number.Binary64.ofFloat x with
  | .nan => 0
  | .infinite negative => if negative then 0 else Number.capacity 64 - 1
  | .finite value =>
      if value.negative then 0
      else if 0 ≤ value.exponent then min (value.mantissa * Nat.pow 2 value.exponent.toNat) (Number.capacity 64 - 1)
      else
        let unit := Nat.pow 2 (-value.exponent).toNat
        min ((2 * value.mantissa + unit) / (2 * unit)) (Number.capacity 64 - 1)

def toCount? (limit : Nat) (value : Value) : Option Nat :=
  let count? := match value with
    | .int n => if 0 ≤ n then some n.toNat else none
    | .bool b => some (if b then 1 else 0)
    | .float x => some (roundFloat x)
    | .string s =>
        let lower := lowerAscii s
        if lower = "true" ∨ lower = "on" ∨ lower = "yes" then some 1
        else if lower = "false" ∨ lower = "off" ∨ lower = "no" then some 0
        else readWord? s.toList
    | .null | .list | .table _ => none
  count?.filter (· < limit)

def toBool? : Value → Option Bool
  | .bool b => some b
  | .int n => some (n != 0)
  | .float x => some (x != 0.0)
  | .string s =>
      let lower := lowerAscii s
      if lower = "1" ∨ lower = "true" ∨ lower = "on" ∨ lower = "yes" then some true
      else if lower = "0" ∨ lower = "false" ∨ lower = "off" ∨ lower = "no" then some false
      else none
  | .null | .list | .table _ => none

def toText? : Value → Option String
  | .string s => some s
  | .bool b => some (if b then "true" else "false")
  | .int n => some (String.ofList (decimalInt n))
  | .float x => some (Number.plain.render x)
  | .null | .list | .table _ => none

/-- Text in the notation for durations, or a number of seconds. -/
def toDuration : Value → Except LengthFault Duration
  | .string s => (Duration.read s).mapError .text
  | .int n =>
      if n < 0 then .error .negative
      else
        match Duration.ofSecs? n.toNat with
        | some d => .ok d
        | none => .error (.text .unrepresentable)
  | .float x => (Duration.ofFloat x).mapError .text
  | .null => .error (.wrongType .null)
  | .bool b => .error (.wrongType (.bool b))
  | .list => .error (.wrongType .sequence)
  | .table _ => .error (.wrongType .map)

end Value

end PowerRota.Config
