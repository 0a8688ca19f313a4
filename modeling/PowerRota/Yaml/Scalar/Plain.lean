import PowerRota.Yaml.Cursor

/-! Scalars without quotes.

A plain scalar runs on over line breaks while its lines are indented, and ends
before a colon or a comment that stands off from it; inside brackets also before
a comma or a bracket. -/

set_option autoImplicit false

namespace PowerRota.Yaml.Plain

def word (inFlow : Bool) : List Char → Except Unit (List Char × List Char)
  | [] => .ok ([], [])
  | c :: rest => do
      let next := rest.head?
      if endsWord (some c) then return ([], c :: rest)
      if inFlow && c == ':' && next.any fun d => isFlowMark d || d == '?' then throw ()
      if (c == ':' && endsWord next) || (inFlow && isFlowMark c) then return ([], c :: rest)
      let (word, rest) ← word inFlow rest
      return (c :: word, rest)

/-- Words and the gaps between them. `gap` is the white space before the next
word; what is left over at the end does not belong to the scalar. The flag tells
whether that rest has a line break. -/
def readFrom (inFlow : Bool) (indent : Nat) : (fuel : Nat) → List Char → Gap → Cursor →
    Except Fault (List Char × Bool × Cursor)
  | 0, text, gap, cursor => .ok (text, gap.hasBreak, cursor)
  | fuel + 1, text, gap, cursor => do
      if cursor.atDocumentEdge || cursor.looksAt '#' then return (text, gap.hasBreak, cursor)
      match word inFlow cursor.rest with
      | .error _ => cursor.fail
      | .ok (word, _) =>
          let (text, gap) := if word.isEmpty then (text, gap) else (text ++ gap.folded ++ word, .empty)
          let cursor := cursor.skip word.length
          match cursor.peek? with
          | some c =>
              if isBlank c || isBreak c then
                let (gap, cursor) ← gap.read indent cursor
                if !inFlow && cursor.column < indent then return (text, gap.hasBreak, cursor)
                readFrom inFlow indent fuel text gap cursor
              else return (text, gap.hasBreak, cursor)
          | none => return (text, gap.hasBreak, cursor)

def read (inFlow : Bool) (indent : Nat) (cursor : Cursor) :
    Except Fault (String × Bool × Cursor) := do
  let (text, broken, cursor) ← readFrom inFlow indent (cursor.rest.length + 1) [] .empty cursor
  return (String.ofList text, broken, cursor)

end PowerRota.Yaml.Plain
