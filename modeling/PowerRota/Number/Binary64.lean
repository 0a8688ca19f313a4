import PowerRota.Text.Decimal

/-! Double-precision numbers as exact fractions, and the fewest digits that read back.

A finite number is a whole number times a power of two. Its decimals are found on
the grids of 1, 2, … 17 digits: the first grid with a point nearer to the number
than to its neighbours holds the answer, and of two such points the nearer one,
with ties to the even digit. -/

set_option autoImplicit false

namespace PowerRota.Number

open Text

/-- How many values a number of bits has room for. -/
def capacity (bits : Nat) : Nat := Nat.pow 2 bits

theorem capacity_succ (bits : Nat) : capacity (bits + 1) = 2 * capacity bits :=
  Nat.mul_comm _ _

/-- A finite double: `(-1) ^ negative * mantissa * 2 ^ exponent`. -/
structure Dyadic where
  negative : Bool
  mantissa : Nat
  exponent : Int
  deriving DecidableEq, Repr

inductive Binary64 where
  | finite (value : Dyadic)
  | infinite (negative : Bool)
  | nan
  deriving DecidableEq, Repr

namespace Binary64

def ofFloat (x : Float) : Binary64 :=
  let bits := x.toBits.toNat
  let negative := bits / capacity 63 == 1
  let biased : Nat := bits / capacity 52 % capacity 11
  let fraction : Nat := bits % capacity 52
  if biased = 2047 then (if fraction = 0 then .infinite negative else .nan)
  else if biased = 0 then .finite ⟨negative, fraction, -1074⟩
  else .finite ⟨negative, fraction + capacity 52, (biased : Int) - 1075⟩

end Binary64

/-- Divide and round to the nearest whole number, a tie going to the even one. -/
def divideToEven (numerator denominator : Nat) : Nat :=
  let quotient := numerator / denominator
  let remainder := numerator % denominator
  if 2 * remainder < denominator then quotient
  else if denominator < 2 * remainder then quotient + 1
  else quotient + quotient % 2

namespace Dyadic

def scaledToEven (value : Dyadic) (factor : Nat) : Nat :=
  if 0 ≤ value.exponent then value.mantissa * Nat.pow 2 value.exponent.toNat * factor
  else divideToEven (value.mantissa * factor) (Nat.pow 2 (-value.exponent).toNat)

/-- A decimal `digits * 10 ^ power`. -/
structure Decimal where
  digits : Nat
  power : Int
  deriving DecidableEq, Repr

/-- The numbers that round to this one lie between the two ends, in quarters of
the last place; the ends belong to them when the mantissa is even. Below a power
of two the numbers are twice as dense. -/
def ends (value : Dyadic) : Nat × Nat :=
  let dense := value.mantissa = capacity 52 ∧ -1074 < value.exponent
  (4 * value.mantissa - (if dense then 1 else 2), 4 * value.mantissa + 2)

def fractionOfQuarters (quarters : Nat) (exponent : Int) : Nat × Nat :=
  if 2 ≤ exponent then (quarters * Nat.pow 2 (exponent - 2).toNat, 1)
  else (quarters, Nat.pow 2 (2 - exponent).toNat)

def roundsBack (value : Dyadic) (digits : Nat) (power : Int) : Bool :=
  let (low, high) := value.ends
  let (lowNum, den) := fractionOfQuarters low value.exponent
  let (highNum, _) := fractionOfQuarters high value.exponent
  let (num, tenDen) := if 0 ≤ power then (digits * Nat.pow 10 power.toNat, 1) else (digits, Nat.pow 10 (-power).toNat)
  let inside := lowNum * tenDen < num * den && num * den < highNum * tenDen
  let onEnd := lowNum * tenDen == num * den || num * den == highNum * tenDen
  inside || (value.mantissa % 2 == 0 && onEnd)

def neighbours (value : Dyadic) (power : Int) : List Nat :=
  let (num, den) := fractionOfQuarters (4 * value.mantissa) value.exponent
  let (num, den) := if 0 ≤ power then (num, den * Nat.pow 10 power.toNat) else (num * Nat.pow 10 (-power).toNat, den)
  let below := num / den
  let nearest := divideToEven num den
  if nearest = below then [below, below + 1] else [below + 1, below]

def magnitude (value : Dyadic) : Int :=
  let (num, den) := fractionOfQuarters (4 * value.mantissa) value.exponent
  let whole := num / den
  if whole ≠ 0 then ((decimal whole).length : Int)
  else 1 - ((decimal (den / num)).length : Int)

def shortestFrom (value : Dyadic) (power : Int) : (grids : Nat) → Decimal
  | 0 => ⟨0, 0⟩
  | grids + 1 =>
      match (value.neighbours power).find? fun digits => value.roundsBack digits power with
      | some digits => ⟨digits, power⟩
      | none => value.shortestFrom (power - 1) grids

def trimZeros (digits : Nat) (power : Int) : (fuel : Nat) → Decimal
  | 0 => ⟨digits, power⟩
  | fuel + 1 =>
      if digits ≠ 0 ∧ digits % 10 = 0 then trimZeros (digits / 10) (power + 1) fuel
      else ⟨digits, power⟩

/-- The fewest digits that read back as the value. -/
def shortest (value : Dyadic) : Decimal :=
  if value.mantissa = 0 then ⟨0, 0⟩
  else
    let found := value.shortestFrom (value.magnitude + 1) 22
    trimZeros found.digits found.power 25

end Dyadic

/-- Where a format turns to a power of ten, and whether whole numbers show a zero
after the point. -/
structure FloatFormat where
  wholeDigits : Option Nat
  leadingZeros : Option Nat
  pointZero : Bool

namespace FloatFormat

def allows (limit : Option Nat) (n : Int) : Bool :=
  match limit with
  | none => true
  | some most => n ≤ most

def renderDecimal (format : FloatFormat) (value : Dyadic.Decimal) : List Char :=
  let digits := decimal value.digits
  let length := digits.length
  -- the number of digits before the point
  let point : Int := length + value.power
  if 0 ≤ value.power && allows format.wholeDigits point then
    digits ++ List.replicate value.power.toNat '0' ++ (if format.pointZero then ['.', '0'] else [])
  else if 0 < point && allows format.wholeDigits point then
    digits.take point.toNat ++ ['.'] ++ digits.drop point.toNat
  else if point ≤ 0 && allows format.leadingZeros (-point) then
    ['0', '.'] ++ List.replicate (-point).toNat '0' ++ digits
  else
    let tail := digits.drop 1
    digits.take 1 ++ (if tail.isEmpty then [] else '.' :: tail) ++ ['e'] ++ decimalInt (point - 1)

def render (format : FloatFormat) (x : Float) : String :=
  match Binary64.ofFloat x with
  | .nan => "NaN"
  | .infinite negative => if negative then "-inf" else "inf"
  | .finite value =>
      let magnitude :=
        if value.mantissa = 0 then (if format.pointZero then ['0', '.', '0'] else ['0'])
        else format.renderDecimal value.shortest
      String.ofList (if value.negative then '-' :: magnitude else magnitude)

end FloatFormat

def plainWithPoint : FloatFormat := ⟨none, none, true⟩

def plain : FloatFormat := ⟨none, none, false⟩

def scientific : FloatFormat := ⟨some 16, some 4, true⟩

/-- A whole number times a power of ten, to the nearest double. Every number with
more than 310 digits before the point is infinite, and every number below the
400th digit after it is zero. -/
def ofDecimal (digits : Nat) (power : Int) : Float :=
  let size : Int := (decimal digits).length + power
  if digits = 0 ∨ size < -400 then 0.0
  else if 400 < size then Float.ofBits 0x7FF0000000000000
  else if power < 0 then Float.ofScientific digits true (-power).toNat
  else Float.ofScientific digits false power.toNat

end PowerRota.Number
