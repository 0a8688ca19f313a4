import PowerRota.Yaml.Character
import PowerRota.Yaml.Fault

/-! A place in a YAML text, and the moves that scalars and tokens are read with. -/

set_option autoImplicit false

namespace PowerRota.Yaml

structure Cursor where
  rest : List Char
  line : Nat
  column : Nat
  index : Nat

namespace Cursor

def start (text : List Char) : Cursor := ⟨text, 0, 0, 0⟩

def peek? (cursor : Cursor) : Option Char := cursor.rest.head?

def ahead? (cursor : Cursor) (n : Nat) : Option Char := cursor.rest[n]?

def looksAt (cursor : Cursor) (c : Char) : Bool := cursor.peek? == some c

def fault (cursor : Cursor) : Fault := .grammar cursor.line cursor.column

def fail {A : Type} (cursor : Cursor) : Except Fault A := .error cursor.fault

def skip (cursor : Cursor) (n : Nat) : Cursor :=
  ⟨cursor.rest.drop n, cursor.line, cursor.column + n, cursor.index + n⟩

def run (cursor : Cursor) (p : Char → Bool) : List Char × Cursor :=
  let read := cursor.rest.takeWhile p
  (read, cursor.skip read.length)

def skipWhile (cursor : Cursor) (p : Char → Bool) : Cursor := (cursor.run p).2

def restOfLine (cursor : Cursor) : List Char × Cursor := cursor.run fun c => !isBreak c

def readBreak? (cursor : Cursor) : Option (Char × Cursor) :=
  match cursor.rest with
  | '\r' :: '\n' :: rest => some ('\n', ⟨rest, cursor.line + 1, 0, cursor.index + 2⟩)
  | c :: rest =>
      if isBreak c then
        some (if c == '\u2028' || c == '\u2029' then c else '\n',
          ⟨rest, cursor.line + 1, 0, cursor.index + 1⟩)
      else none
  | [] => none

/-- Three equal marks at the start of a line, as they divide documents. -/
def atDocumentMark (cursor : Cursor) (mark : Char) : Bool :=
  cursor.column == 0 && cursor.rest.take 3 == [mark, mark, mark] && endsWord (cursor.ahead? 3)

def atDocumentEdge (cursor : Cursor) : Bool :=
  cursor.atDocumentMark '-' || cursor.atDocumentMark '.'

end Cursor

/-- White space between two words of a scalar: blanks, or line breaks with the
blanks around them dropped. -/
structure Gap where
  blanks : List Char
  firstBreak : Option Char
  laterBreaks : List Char

namespace Gap

def empty : Gap := ⟨[], none, []⟩

def hasBreak (gap : Gap) : Bool := gap.firstBreak.isSome

/-- One line break folds to a space; of several the first is dropped. -/
def folded (gap : Gap) : List Char :=
  match gap.firstBreak with
  | none => gap.blanks
  | some '\n' => if gap.laterBreaks.isEmpty then [' '] else gap.laterBreaks
  | some c => c :: gap.laterBreaks

/-- Read white space on. A tab after a line break must not stand left of `indent`. -/
def readFrom (indent : Nat) : (fuel : Nat) → Gap → Cursor → Except Fault (Gap × Cursor)
  | 0, gap, cursor => .ok (gap, cursor)
  | fuel + 1, gap, cursor =>
      match cursor.readBreak? with
      | some (c, next) =>
          let gap : Gap :=
            if gap.hasBreak then { gap with laterBreaks := gap.laterBreaks ++ [c] }
            else { gap with blanks := [], firstBreak := some c }
          readFrom indent fuel gap next
      | none =>
          match cursor.peek? with
          | some c =>
              if isBlank c then
                if gap.hasBreak then
                  if c == '\t' && cursor.column < indent then cursor.fail
                  else readFrom indent fuel gap (cursor.skip 1)
                else readFrom indent fuel { gap with blanks := gap.blanks ++ [c] } (cursor.skip 1)
              else .ok (gap, cursor)
          | none => .ok (gap, cursor)

def read (gap : Gap) (indent : Nat) (cursor : Cursor) : Except Fault (Gap × Cursor) :=
  readFrom indent cursor.rest.length gap cursor

end Gap

end PowerRota.Yaml
