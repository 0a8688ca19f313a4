import PowerRota.Calendar.TimeOfDay
import PowerRota.Number.Binary64
import PowerRota.Text.Quoted

/-! Why a value does not fit the type that is read from it.

The faults are the same for every notation; a `Dialect` holds the two words on
which notations differ. -/

set_option autoImplicit false

namespace PowerRota.Data

open Text

/-- What was found in place of the expected thing. -/
inductive Found where
  | null
  | bool (value : Bool)
  | int (value : Int)
  | float (value : Float)
  | string (value : String)
  | sequence
  | map
  | taggedValue
  deriving Repr

inductive Fault where
  | missingField (name : String)
  | duplicateField (name : String)
  | unknownField (name : String) (known : List String)
  | unknownVariant (name : String) (known : List String)
  | wrongType (found : Found) (expected : String)
  | wrongValue (found : Found) (expected : String)
  | wrongLength (length : Nat) (expected : String)
  | timeOfDay (fault : Calendar.TimeFault)
  | instant
  | durationOverflow
  deriving Repr

/-- The name of the empty value and the digits of a float. -/
structure Dialect where
  nullName : String
  float : Number.FloatFormat

def backticked (name : String) : String :=
  "\x60" ++ name ++ "\x60"

def Found.describe (dialect : Dialect) : Found → String
  | .null => dialect.nullName
  | .bool b => "boolean " ++ backticked (if b then "true" else "false")
  | .int n => "integer " ++ backticked (String.ofList (decimalInt n))
  | .float x => "floating point " ++ backticked (dialect.float.render x)
  | .string s => "string " ++ quoted s
  | .sequence => "sequence"
  | .map => "map"
  | .taggedValue => "enum"

def alternatives (names : List String) : String :=
  match names with
  | [] => "there are none"
  | [one] => "expected " ++ backticked one
  | [one, two] => "expected " ++ backticked one ++ " or " ++ backticked two
  | many => "expected one of " ++ String.intercalate ", " (many.map backticked)

end PowerRota.Data
