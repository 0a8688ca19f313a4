/-! Nested values in octets: each has a tag, a length and a content.

A sequence holds values; what other tags hold is left as it is. -/

set_option autoImplicit false

namespace PowerRota.Key

inductive Der where
  | sequence (items : List Der)
  | identifier (content : List UInt8)
  | octets (content : List UInt8)
  | bits (content : List UInt8)
  | other (tag : UInt8) (content : List UInt8)

namespace Der

def number (octets : List UInt8) : Nat :=
  octets.foldl (fun n octet => n * 256 + octet.toNat) 0

/-- A length and what follows it. Long lengths say first how many octets they take. -/
def readLength? : List UInt8 → Option (Nat × List UInt8)
  | [] => none
  | first :: rest =>
      if first < 128 then some (first.toNat, rest)
      else
        let count := first.toNat - 128
        if count = 0 || rest.length < count then none
        else some (number (rest.take count), rest.drop count)

def readAll? : (fuel : Nat) → List UInt8 → Option (List Der)
  | _, [] => some []
  | 0, _ => none
  | fuel + 1, tag :: rest => do
      let (length, rest) ← readLength? rest
      if rest.length < length then none
      else
        let content := rest.take length
        let value ←
          if tag = 0x30 then (readAll? fuel content).map sequence
          else if tag = 0x06 then some (identifier content)
          else if tag = 0x04 then some (octets content)
          else if tag = 0x03 then some (bits content)
          else some (other tag content)
        return value :: (← readAll? fuel (rest.drop length))

def read? (octets : List UInt8) : Option (List Der) :=
  readAll? (octets.length + 1) octets

mutual

def identifiers : Der → List (List UInt8)
  | sequence items => identifiersIn items
  | identifier content => [content]
  | _ => []

def identifiersIn : List Der → List (List UInt8)
  | [] => []
  | item :: rest => identifiers item ++ identifiersIn rest

end

mutual

def holdsString : Der → Bool
  | sequence items => anyHoldsString items
  | octets _ => true
  | bits _ => true
  | _ => false

def anyHoldsString : List Der → Bool
  | [] => false
  | item :: rest => holdsString item || anyHoldsString rest

end

end Der

end PowerRota.Key
