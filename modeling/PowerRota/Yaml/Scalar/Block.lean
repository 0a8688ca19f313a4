import PowerRota.Text.Decimal
import PowerRota.Yaml.Cursor

/-! Scalars in blocks of their own lines.

A literal block keeps its line breaks; a folded one joins lines that do not start
with white space. The header may set the indentation, and what happens to the line
breaks at the end. -/

set_option autoImplicit false

namespace PowerRota.Yaml.Block

inductive Chomping where
  | strip
  | clip
  | keep
  deriving DecidableEq, Repr

structure Header where
  chomping : Chomping
  increment : Option Nat

def chomping? : Option Char → Option Chomping
  | some '+' => some .keep
  | some '-' => some .strip
  | _ => none

def increment? (cursor : Cursor) : Except Fault (Option Nat × Cursor) :=
  match cursor.peek? with
  | some c =>
      if Text.isDigit c then
        if c == '0' then cursor.fail else .ok (some (Text.digitValue c), cursor.skip 1)
      else .ok (none, cursor)
  | none => .ok (none, cursor)

def readHeader (cursor : Cursor) : Except Fault (Header × Cursor) := do
  let (header, cursor) ← marks cursor
  let cursor := cursor.skipWhile isBlank
  let cursor := if cursor.looksAt '#' then cursor.restOfLine.2 else cursor
  match cursor.readBreak? with
  | some (_, next) => return (header, next)
  | none => if cursor.peek?.isNone then return (header, cursor) else cursor.fail
where
  marks (cursor : Cursor) : Except Fault (Header × Cursor) := do
    match chomping? cursor.peek? with
    | some chomping =>
        let (increment, cursor) ← increment? (cursor.skip 1)
        return (⟨chomping, increment⟩, cursor)
    | none =>
        let (increment, cursor) ← increment? cursor
        match increment, chomping? cursor.peek? with
        | some _, some chomping => return (⟨chomping, increment⟩, cursor.skip 1)
        | _, _ => return (⟨.clip, increment⟩, cursor)

/-- Empty lines. While the indentation is not known, the widest of them is kept
track of. -/
def emptyLines (indent : Option Nat) : (fuel : Nat) → (widest : Nat) → List Char → Cursor →
    Except Fault (Nat × List Char × Cursor)
  | 0, widest, breaks, cursor => .ok (widest, breaks, cursor)
  | fuel + 1, widest, breaks, cursor =>
      let room := match indent with
        | some n => n - cursor.column
        | none => cursor.rest.length
      let spaces := (cursor.rest.take room).takeWhile (· == ' ')
      let cursor := cursor.skip spaces.length
      let widest := max widest cursor.column
      let outside := match indent with
        | some n => cursor.column < n
        | none => true
      if outside && cursor.looksAt '\t' then cursor.fail
      else
        match cursor.readBreak? with
        | some (c, next) => emptyLines indent fuel widest (breaks ++ [c]) next
        | none => .ok (widest, breaks, cursor)

structure Lines where
  text : List Char
  lastBreak : List Char
  emptyAfter : List Char
  indented : Bool

def Lines.joined (lines : Lines) (folded nextIndented : Bool) : List Char :=
  if folded && lines.lastBreak == ['\n'] && !lines.indented && !nextIndented then
    lines.text ++ (if lines.emptyAfter.isEmpty then [' '] else lines.emptyAfter)
  else lines.text ++ lines.lastBreak ++ lines.emptyAfter

def readLines (folded : Bool) (indent : Nat) : (fuel : Nat) → Lines → Cursor →
    Except Fault (Lines × Cursor)
  | 0, lines, cursor => .ok (lines, cursor)
  | fuel + 1, lines, cursor => do
      if cursor.column == indent && cursor.peek?.isSome then
        let indented := cursor.peek?.any isBlank
        let (line, cursor) := cursor.restOfLine
        let (lastBreak, cursor) := match cursor.readBreak? with
          | some (c, next) => ([c], next)
          | none => ([], cursor)
        let text := lines.joined folded indented ++ line
        let (_, emptyAfter, cursor) ← emptyLines (some indent) (cursor.rest.length + 1) 0 [] cursor
        readLines folded indent fuel ⟨text, lastBreak, emptyAfter, indented⟩ cursor
      else return (lines, cursor)

/-- The text of a block whose parent is indented by `parent` columns, minus one at
the top, and the place after it. -/
def read (folded : Bool) (parent : Int) (cursor : Cursor) : Except Fault (String × Cursor) := do
  let (header, cursor) ← readHeader (cursor.skip 1)
  let given := header.increment.map fun n => parent.toNat + n
  let (widest, emptyBefore, cursor) ← emptyLines given (cursor.rest.length + 1) 0 [] cursor
  let indent := given.getD (max widest (max (parent + 1).toNat 1))
  let (lines, cursor) ← readLines folded indent (cursor.rest.length + 1) ⟨[], [], emptyBefore, false⟩
    cursor
  let text := match header.chomping with
    | .strip => lines.text
    | .clip => lines.text ++ lines.lastBreak
    | .keep => lines.text ++ lines.lastBreak ++ lines.emptyAfter
  return (String.ofList text, cursor)

end PowerRota.Yaml.Block
