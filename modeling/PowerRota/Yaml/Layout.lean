import PowerRota.Yaml.Scalar.Block
import PowerRota.Yaml.Scalar.Plain
import PowerRota.Yaml.Scalar.Quoted
import PowerRota.Yaml.Token

/-! From text to tokens.

Indentation opens and closes blocks, and a colon makes a key of the node before it.
A node that may turn out to be a key is remembered as a candidate; when the colon
comes, the key token is put before the tokens of the node. A candidate must stand
on one line and be no longer than 1024 characters. -/

set_option autoImplicit false

namespace PowerRota.Yaml

/-- A node that a colon may turn into a key. -/
structure Candidate where
  required : Bool
  position : Nat
  line : Nat
  column : Nat
  index : Nat

structure Layout where
  cursor : Cursor
  tokens : List Token
  /-- The column of the innermost block, minus one outside of all. -/
  indent : Int
  outerIndents : List Int
  /-- The candidate of the innermost level, then those of the levels around it. -/
  candidate : Option Candidate
  outerCandidates : List (Option Candidate)
  keyAllowed : Bool

namespace Layout

def start (text : List Char) : Layout where
  cursor := .start text
  tokens := []
  indent := -1
  outerIndents := []
  candidate := none
  outerCandidates := []
  keyAllowed := true

def inFlow (layout : Layout) : Bool := !layout.outerCandidates.isEmpty

def column (layout : Layout) : Int := layout.cursor.column

def fail {A : Type} (layout : Layout) : Except Fault A := layout.cursor.fail

def push (layout : Layout) (token : Token) : Layout :=
  { layout with tokens := token :: layout.tokens }

def insertAt (layout : Layout) (position : Nat) (inserted : List Token) : Layout :=
  let after := layout.tokens.length - position
  { layout with
    tokens := layout.tokens.take after ++ inserted.reverse ++ layout.tokens.drop after }

def closeFrom (column : Int) : List Int → Layout → Layout
  | [], layout => layout
  | outer :: outers, layout =>
      if column < layout.indent then
        closeFrom column outers
          { layout with
            tokens := .blockEnd :: layout.tokens, indent := outer, outerIndents := outers }
      else layout

def close (layout : Layout) (column : Int) : Layout :=
  if layout.inFlow then layout else closeFrom column layout.outerIndents layout

def openBlock (layout : Layout) (column : Int) (position : Nat) (token : Token) : Layout :=
  if !layout.inFlow && layout.indent < column then
    { layout.insertAt position [token] with
      indent := column, outerIndents := layout.indent :: layout.outerIndents }
  else layout

def isStale (layout : Layout) (candidate : Candidate) : Bool :=
  candidate.line < layout.cursor.line || candidate.index + 1024 < layout.cursor.index

/-- Give up the candidates that no colon can reach any more. -/
def dropStale (layout : Layout) : Except Fault Layout := do
  let checked (candidate : Option Candidate) : Except Fault (Option Candidate) :=
    match candidate with
    | some c => if layout.isStale c then (if c.required then layout.fail else .ok none) else .ok (some c)
    | none => .ok none
  let candidate ← checked layout.candidate
  let outerCandidates ← layout.outerCandidates.mapM checked
  return { layout with candidate, outerCandidates }

def dropCandidate (layout : Layout) : Except Fault Layout :=
  match layout.candidate with
  | some c => if c.required then layout.fail else .ok { layout with candidate := none }
  | none => .ok layout

def saveCandidate (layout : Layout) : Except Fault Layout := do
  if layout.keyAllowed then
    let required := !layout.inFlow && layout.indent == layout.column
    let layout ← layout.dropCandidate
    let cursor := layout.cursor
    return { layout with
      candidate := some ⟨required, layout.tokens.length, cursor.line, cursor.column, cursor.index⟩ }
  else return layout

def toNextToken : (fuel : Nat) → Layout → Layout
  | 0, layout => layout
  | fuel + 1, layout =>
      let tabs := layout.inFlow || !layout.keyAllowed
      let cursor := layout.cursor.skipWhile fun c => c == ' ' || (tabs && c == '\t')
      let cursor := if cursor.looksAt '#' then cursor.restOfLine.2 else cursor
      match cursor.readBreak? with
      | some (_, next) =>
          toNextToken fuel
            { layout with cursor := next, keyAllowed := layout.keyAllowed || !layout.inFlow }
      | none => { layout with cursor := cursor }

def mark (layout : Layout) (token : Token) (width : Nat) : Layout :=
  { layout.push token with cursor := layout.cursor.skip width }

/-- A token that no key may follow on its line, and no candidate may precede. -/
def boundary (layout : Layout) : Except Fault Layout := do
  let layout ← (layout.close (-1)).dropCandidate
  return { layout with keyAllowed := false }

def openFlow (layout : Layout) (token : Token) : Except Fault Layout := do
  let layout ← layout.saveCandidate
  let layout := { layout with
    outerCandidates := layout.candidate :: layout.outerCandidates, candidate := none,
    keyAllowed := true }
  return layout.mark token 1

def closeFlow (layout : Layout) (token : Token) : Except Fault Layout := do
  let layout ← layout.dropCandidate
  let layout := match layout.outerCandidates with
    | outer :: outers => { layout with candidate := outer, outerCandidates := outers }
    | [] => layout
  return { layout with keyAllowed := false }.mark token 1

def flowEntry (layout : Layout) : Except Fault Layout := do
  let layout ← layout.dropCandidate
  return { layout with keyAllowed := true }.mark .flowEntry 1

def blockEntry (layout : Layout) : Except Fault Layout := do
  if !layout.inFlow && !layout.keyAllowed then layout.fail
  else
    let layout := layout.openBlock layout.column layout.tokens.length .blockSequence
    let layout ← layout.dropCandidate
    return { layout with keyAllowed := true }.mark .blockEntry 1

def key (layout : Layout) : Except Fault Layout := do
  if !layout.inFlow && !layout.keyAllowed then layout.fail
  else
    let layout := layout.openBlock layout.column layout.tokens.length .blockMapping
    let layout ← layout.dropCandidate
    return { layout with keyAllowed := !layout.inFlow }.mark .key 1

def value (layout : Layout) : Except Fault Layout :=
  match layout.candidate with
  | some c =>
      let layout := (layout.insertAt c.position [.key]).openBlock c.column c.position .blockMapping
      .ok ({ layout with candidate := none, keyAllowed := false }.mark .value 1)
  | none =>
      if !layout.inFlow && !layout.keyAllowed then layout.fail
      else
        let layout := layout.openBlock layout.column layout.tokens.length .blockMapping
        .ok ({ layout with keyAllowed := !layout.inFlow }.mark .value 1)

def node (layout : Layout) (read : Layout → Except Fault (Token × Cursor)) :
    Except Fault Layout := do
  let layout ← layout.saveCandidate
  let layout := { layout with keyAllowed := false }
  let (token, cursor) ← read layout
  return { layout.push token with cursor }

def plain (layout : Layout) : Except Fault Layout := do
  let layout ← layout.saveCandidate
  let (text, broken, cursor) ← Plain.read layout.inFlow (layout.indent + 1).toNat layout.cursor
  return { layout.push (.scalar .plain text) with cursor, keyAllowed := broken }

def block (layout : Layout) (folded : Bool) : Except Fault Layout := do
  let layout ← layout.dropCandidate
  let (text, cursor) ← Block.read folded layout.indent layout.cursor
  return { layout.push (.scalar .quoted text) with cursor, keyAllowed := true }

def quoted (layout : Layout) (quote : Quoted.Quote) : Except Fault Layout :=
  layout.node fun layout => do
    let (text, cursor) ← Quoted.read quote layout.cursor
    return (.scalar .quoted text, cursor)

def isIndicator (c : Char) : Bool :=
  "-?:,[]\x7b\x7d#&*!|>'\"%@\x60".toList.contains c

def startsPlain (layout : Layout) (c : Char) : Bool :=
  let next := layout.cursor.ahead? 1
  !(isIndicator c || isBlank c) || (c == '-' && !next.any isBlank) ||
    (!layout.inFlow && (c == '?' || c == ':') && !endsWord next)

def readToken (layout : Layout) (c : Char) : Except Fault Layout :=
  let cursor := layout.cursor
  let next := cursor.ahead? 1
  if cursor.column == 0 && c == '%' then do
    let layout ← layout.boundary
    let (token, cursor) ← Token.readDirective layout.cursor
    return { layout.push token with cursor }
  else if cursor.atDocumentMark '-' then do return (← layout.boundary).mark .documentStart 3
  else if cursor.atDocumentMark '.' then do return (← layout.boundary).mark .documentEnd 3
  else if c == '[' then layout.openFlow .openList
  else if c == '\x7b' then layout.openFlow .openMap
  else if c == ']' then layout.closeFlow .closeList
  else if c == '\x7d' then layout.closeFlow .closeMap
  else if c == ',' then layout.flowEntry
  else if c == '-' && endsWord next then layout.blockEntry
  else if c == '?' && (layout.inFlow || endsWord next) then layout.key
  else if c == ':' && (layout.inFlow || endsWord next) then layout.value
  else if c == '*' then layout.node fun layout => do
    let (name, cursor) ← Token.readName layout.cursor
    return (.alias name, cursor)
  else if c == '&' then layout.node fun layout => do
    let (name, cursor) ← Token.readName layout.cursor
    return (.anchor name, cursor)
  else if c == '!' then layout.node fun layout => Token.readTag layout.inFlow layout.cursor
  else if c == '|' && !layout.inFlow then layout.block false
  else if c == '>' && !layout.inFlow then layout.block true
  else if c == '\'' then layout.quoted .single
  else if c == '"' then layout.quoted .double
  else if layout.startsPlain c then layout.plain
  else layout.fail

def readAll : (fuel : Nat) → Layout → List Token × Option Fault
  | 0, layout => (layout.tokens.reverse, some layout.cursor.fault)
  | fuel + 1, layout =>
      let layout := toNextToken (layout.cursor.rest.length + 1) layout
      match layout.dropStale with
      | .error fault => (layout.tokens.reverse, some fault)
      | .ok layout =>
          match layout.cursor.peek? with
          | none =>
              let layout := layout.close (-1)
              match layout.dropCandidate with
              | .error fault => (layout.tokens.reverse, some fault)
              | .ok layout => (layout.tokens.reverse, none)
          | some c =>
              let layout := layout.close layout.column
              match layout.readToken c with
              | .error fault => (layout.tokens.reverse, some fault)
              | .ok layout => readAll fuel layout

end Layout

/-- The tokens of a text up to the first fault. A mark of byte order may stand
before the text. -/
def Token.ofText (text : List Char) : List Token × Option Fault :=
  let text := if text.head? == some '\uFEFF' then text.drop 1 else text
  if text.all isAllowed then Layout.readAll (text.length + 1) (.start text)
  else ([], some .character)

end PowerRota.Yaml
