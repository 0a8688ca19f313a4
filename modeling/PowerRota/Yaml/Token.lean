import PowerRota.Yaml.Cursor

/-! Tokens of YAML, and those of them that are read without regard to layout:
names, tags and directives. -/

set_option autoImplicit false

namespace PowerRota.Yaml

inductive ScalarStyle where
  | plain
  | quoted
  deriving DecidableEq, Repr

inductive Token where
  | version (major minor : Nat)
  | tagHandle (handle expansion : String)
  | documentStart
  | documentEnd
  | blockSequence
  | blockMapping
  | blockEnd
  | openList
  | closeList
  | openMap
  | closeMap
  | blockEntry
  | flowEntry
  | key
  | value
  | alias (name : String)
  | anchor (name : String)
  | tag (handle suffix : String)
  | scalar (style : ScalarStyle) (text : String)
  deriving DecidableEq, Repr

namespace Token

def readName (cursor : Cursor) : Except Fault (String × Cursor) :=
  let (name, next) := (cursor.skip 1).run isWordChar
  let closed := endsWord next.peek? || next.peek?.any fun c => "?:,]\x7d%@\x60".contains c
  if name.isEmpty || !closed then cursor.fail else .ok (String.ofList name, next)

def hexPair? : List Char → Option Nat
  | a :: b :: _ => do
      let high ← hexDigit? a
      let low ← hexDigit? b
      return high * 16 + low
  | _ => none
where
  hexDigit? (c : Char) : Option Nat :=
    let n := c.toNat
    if '0' ≤ c && c ≤ '9' then some (n - 0x30)
    else if 'a' ≤ c && c ≤ 'f' then some (n - 0x61 + 10)
    else if 'A' ≤ c && c ≤ 'F' then some (n - 0x41 + 10)
    else none

def escapedOctets (text : List Char) : (count : Nat) → Option (List UInt8)
  | 0 => some []
  | count + 1 =>
      match text with
      | '%' :: rest => do
          let octet ← hexPair? rest
          let others ← escapedOctets (rest.drop 2) count
          return UInt8.ofNat octet :: others
      | _ => none

def escapedChar? (text : List Char) : Option (Char × Nat) := do
  let first ← match text with
    | '%' :: rest => hexPair? rest
    | _ => none
  let width :=
    if first < 0x80 then 1 else if first / 32 = 6 then 2 else if first / 16 = 14 then 3
    else if first / 8 = 30 then 4 else 0
  if width = 0 then none
  let octets ← escapedOctets text width
  let decoded ← String.fromUTF8? ⟨octets.toArray⟩
  match decoded.toList with
  | [c] => some (c, width)
  | _ => none

def readTagChars (commas : Bool) : (fuel : Nat) → List Char → Cursor →
    Except Fault (List Char × Cursor)
  | 0, read, cursor => .ok (read, cursor)
  | fuel + 1, read, cursor =>
      match cursor.peek? with
      | some c =>
          if c == '%' then
            match escapedChar? cursor.rest with
            | some (decoded, width) =>
                readTagChars commas fuel (read ++ [decoded]) (cursor.skip (3 * width))
            | none => cursor.fail
          else if isTagChar c || (commas && (c == ',' || c == '[' || c == ']')) then
            readTagChars commas fuel (read ++ [c]) (cursor.skip 1)
          else .ok (read, cursor)
      | none => .ok (read, cursor)

def tagChars (commas : Bool) (cursor : Cursor) : Except Fault (List Char × Cursor) :=
  readTagChars commas (cursor.rest.length + 1) [] cursor

def readHandle (cursor : Cursor) : Except Fault (List Char × Cursor) :=
  if cursor.looksAt '!' then
    let (name, next) := (cursor.skip 1).run isWordChar
    if next.looksAt '!' then .ok ('!' :: (name ++ ['!']), next.skip 1) else .ok ('!' :: name, next)
  else cursor.fail

/-- A tag: in angle brackets as it is, or a handle and a suffix. A lone mark is a
tag of its own. -/
def readTag (inFlow : Bool) (cursor : Cursor) : Except Fault (Token × Cursor) := do
  let (token, next) ← parts
  if endsWord next.peek? || (inFlow && next.looksAt ',') then return (token, next)
  else cursor.fail
where
  parts : Except Fault (Token × Cursor) := do
    if cursor.ahead? 1 == some '<' then
      let (chars, next) ← tagChars true (cursor.skip 2)
      if chars.isEmpty || !next.looksAt '>' then cursor.fail
      else return (.tag "" (String.ofList chars), next.skip 1)
    else
      let (handle, next) ← readHandle cursor
      if 2 ≤ handle.length && handle.getLast? == some '!' then
        let (chars, next) ← tagChars false next
        if chars.isEmpty then cursor.fail
        else return (.tag (String.ofList handle) (String.ofList chars), next)
      else
        let (chars, next) ← tagChars false next
        let suffix := handle.drop 1 ++ chars
        if suffix.isEmpty then return (.tag "" "!", next)
        else return (.tag "!" (String.ofList suffix), next)

def readVersionPart (cursor : Cursor) : Except Fault (Nat × Cursor) :=
  let (digits, next) := cursor.run Char.isDigit
  if digits.isEmpty || 9 < digits.length then cursor.fail
  else .ok (digits.foldl (fun n c => n * 10 + (c.toNat - '0'.toNat)) 0, next)

def readDirective (cursor : Cursor) : Except Fault (Token × Cursor) := do
  let (name, next) := (cursor.skip 1).run isWordChar
  if name.isEmpty || !endsWord next.peek? then cursor.fail
  else
    let next := next.skipWhile isBlank
    let (token, next) ← value (String.ofList name) next
    let next := next.skipWhile isBlank
    let next := if next.looksAt '#' then next.restOfLine.2 else next
    match next.readBreak? with
    | some (_, following) => return (token, following)
    | none => if next.peek?.isNone then return (token, next) else next.fail
where
  value (name : String) (next : Cursor) : Except Fault (Token × Cursor) := do
    if name == "YAML" then
      let (major, next) ← readVersionPart next
      if next.looksAt '.' then
        let (minor, next) ← readVersionPart (next.skip 1)
        return (.version major minor, next)
      else next.fail
    else if name == "TAG" then
      let (handle, next) ← readHandle next
      if handle.getLast? != some '!' then next.fail
      if !next.peek?.any isBlank then next.fail
      let (expansion, next) ← tagChars true (next.skipWhile isBlank)
      if expansion.isEmpty || !endsWord next.peek? then next.fail
      return (.tagHandle (String.ofList handle) (String.ofList expansion), next)
    else next.fail

end Token

end PowerRota.Yaml
