import PowerRota.Text.Blank

/-! Numbers written in ASCII digits: printing, padding to a width, and reading. -/

set_option autoImplicit false

namespace PowerRota.Text

def isDigit (c : Char) : Bool :=
  '0' ≤ c && c ≤ '9'

def digitValue (c : Char) : Nat :=
  c.toNat - '0'.toNat

def digitsValue (digits : List Char) : Nat :=
  digits.foldl (fun value c => value * 10 + digitValue c) 0

def decimal (n : Nat) : List Char :=
  Nat.toDigits 10 n

def decimalInt (n : Int) : List Char :=
  if n < 0 then '-' :: decimal n.natAbs else decimal n.natAbs

/-- At least `width` characters, filled with zeros on the left. -/
def zeroPadded (width n : Nat) : List Char :=
  let digits := decimal n
  List.replicate (width - digits.length) '0' ++ digits

def readNat (text : List Char) : Option Nat :=
  if text.isEmpty || !text.all isDigit then none else some (digitsValue text)

def readInt : List Char → Option Int
  | '-' :: rest => (readNat rest).map fun n => -(n : Int)
  | '+' :: rest => (readNat rest).map Int.ofNat
  | text => (readNat text).map Int.ofNat

def readFixed (width : Nat) (text : List Char) : Option (Nat × List Char) :=
  let head := text.take width
  if head.length = width && head.all isDigit then some (digitsValue head, text.drop width)
  else none

end PowerRota.Text
