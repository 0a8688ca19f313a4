import PowerRota.Yaml.Cursor

/-! Scalars between quotes.

Line breaks fold as in plain scalars. Between single quotes a quote is written
twice; between double quotes a backslash starts an escape, and at the end of a
line it joins the lines. -/

set_option autoImplicit false

namespace PowerRota.Yaml.Quoted

inductive Quote where
  | single
  | double
  deriving DecidableEq, Repr

def Quote.mark : Quote → Char
  | .single => '\''
  | .double => '"'

def hexValue? (c : Char) : Option Nat :=
  if '0' ≤ c && c ≤ '9' then some (c.toNat - '0'.toNat)
  else if 'a' ≤ c && c ≤ 'f' then some (c.toNat - 'a'.toNat + 10)
  else if 'A' ≤ c && c ≤ 'F' then some (c.toNat - 'A'.toNat + 10)
  else none

def codePoint? (digits : List Char) (width : Nat) : Option Char := do
  let values ← digits.mapM hexValue?
  let n := values.foldl (fun n value => n * 16 + value) 0
  if values.length = width ∧ n.isValidChar then some (Char.ofNat n) else none

def escape? : List Char → Option (Char × Nat)
  | '0' :: _ => some ('\x00', 1)
  | 'a' :: _ => some ('\x07', 1)
  | 'b' :: _ => some ('\x08', 1)
  | 't' :: _ | '\t' :: _ => some ('\t', 1)
  | 'n' :: _ => some ('\n', 1)
  | 'v' :: _ => some ('\x0b', 1)
  | 'f' :: _ => some ('\x0c', 1)
  | 'r' :: _ => some ('\r', 1)
  | 'e' :: _ => some ('\x1b', 1)
  | ' ' :: _ => some (' ', 1)
  | '"' :: _ => some ('"', 1)
  | '/' :: _ => some ('/', 1)
  | '\\' :: _ => some ('\\', 1)
  | 'N' :: _ => some ('\x85', 1)
  | '_' :: _ => some ('\xa0', 1)
  | 'L' :: _ => some ('\u2028', 1)
  | 'P' :: _ => some ('\u2029', 1)
  | 'x' :: rest => (codePoint? (rest.take 2) 2).map fun c => (c, 3)
  | 'u' :: rest => (codePoint? (rest.take 4) 4).map fun c => (c, 5)
  | 'U' :: rest => (codePoint? (rest.take 8) 8).map fun c => (c, 9)
  | _ => none

/-- A run without white space, as read from the place after the opening quote. The
flag tells whether it ends in a backslash and a line break. -/
def word (quote : Quote) : (fuel : Nat) → List Char → Cursor →
    Except Fault (List Char × Bool × Cursor)
  | 0, text, cursor => .ok (text, false, cursor)
  | fuel + 1, text, cursor =>
      match cursor.peek? with
      | none => .ok (text, false, cursor)
      | some c =>
          if isBlank c || isBreak c then .ok (text, false, cursor)
          else if c == quote.mark then
            if quote == .single && cursor.ahead? 1 == some '\'' then
              word quote fuel (text ++ ['\'']) (cursor.skip 2)
            else .ok (text, false, cursor)
          else if quote == .double && c == '\\' then
            match (cursor.skip 1).readBreak? with
            | some (_, next) => .ok (text, true, next)
            | none =>
                match escape? (cursor.rest.drop 1) with
                | some (value, length) => word quote fuel (text ++ [value]) (cursor.skip (length + 1))
                | none => cursor.fail
          else word quote fuel (text ++ [c]) (cursor.skip 1)

def readFrom (quote : Quote) : (fuel : Nat) → List Char → Cursor →
    Except Fault (List Char × Cursor)
  | 0, _, cursor => cursor.fail
  | fuel + 1, text, cursor => do
      if cursor.atDocumentEdge || cursor.peek?.isNone then cursor.fail
      else
        let (text, joined, cursor) ← word quote (cursor.rest.length + 1) text cursor
        if cursor.looksAt quote.mark then return (text, cursor.skip 1)
        else
          -- a joined line break leaves nothing behind, and breaks after it stay
          let before : Gap := if joined then ⟨[], some '\x00', []⟩ else .empty
          let (gap, cursor) ← before.read 0 cursor
          let white := if joined then gap.laterBreaks else gap.folded
          readFrom quote fuel (text ++ white) cursor

def read (quote : Quote) (cursor : Cursor) : Except Fault (String × Cursor) := do
  let (text, cursor) ← readFrom quote (cursor.rest.length + 1) [] (cursor.skip 1)
  return (String.ofList text, cursor)

end PowerRota.Yaml.Quoted
