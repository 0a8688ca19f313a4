import PowerRota.Yaml.Layout

/-! Documents as trees of nodes.

Every name that is given to a node has a turn and a number. The turn counts how
often names were given before; the number counts how many names there were before,
so that a name given again shares its number with the next new one. An alias holds
the turn and the number that its name had last. -/

set_option autoImplicit false

namespace PowerRota.Yaml

inductive Node where
  | scalar (tag : Option String) (style : ScalarStyle) (text : String)
  | sequence (tag : Option String) (items : List Node)
  | mapping (tag : Option String) (entries : List (Node × Node))
  | alias (turn number : Nat)
  deriving Inhabited

def Node.absent : Node := .scalar none .plain ""

structure Named where
  turn : Nat
  number : Nat
  node : Node

structure Document where
  root : Node
  named : List Named
  /-- Scalars and aliases count once, the others for their start and their end. -/
  size : Nat

def Document.atTurn? (document : Document) (turn : Nat) : Option Node :=
  (document.named.find? (·.turn == turn)).map (·.node)

def Document.find? (document : Document) (number : Nat) : Option Node :=
  let latest := document.named.foldl
    (fun (best : Option Named) entry =>
      if entry.number = number && best.all (·.turn < entry.turn) then some entry else best)
    none
  latest.map (·.node)

/-- What is left of the tokens, and what is known at this point of a document. -/
structure Outlook where
  tokens : List Token
  fault : Option Fault
  handles : List (String × String)
  names : List (String × Nat × Nat)
  named : List Named
  turns : Nat
  size : Nat

abbrev Reading := StateT Outlook (Except Fault)

namespace Reading

def peek : Reading (Option Token) := do
  let outlook ← get
  match outlook.tokens, outlook.fault with
  | token :: _, _ => return some token
  | [], some fault => throw fault
  | [], none => return none

def next : Reading Unit := modify fun outlook => { outlook with tokens := outlook.tokens.drop 1 }

def peekNext : Reading (Option Token) := do
  next
  peek

def fail {A : Type} : Reading A := throw (.grammar 0 0)

def count (n : Nat) : Reading Unit := modify fun outlook => { outlook with size := outlook.size + n }

def register (name : String) : Reading (Nat × Nat) := do
  let outlook ← get
  let turn := outlook.turns
  let number := outlook.names.length
  set { outlook with
    names := (name, turn, number) :: outlook.names.filter (·.1 != name), turns := turn + 1 }
  return (turn, number)

def record (name : Option (Nat × Nat)) (node : Node) : Reading Node := do
  match name with
  | some (turn, number) =>
      modify fun outlook => { outlook with named := ⟨turn, number, node⟩ :: outlook.named }
      return node
  | none => return node

def tagText (handle suffix : String) : Reading String := do
  if handle.isEmpty then return suffix
  else
    match (← get).handles.lookup handle with
    | some expansion => return expansion ++ suffix
    | none => fail

def properties : Reading (Option String × Option String) := do
  match ← peek with
  | some (.anchor name) =>
      match ← peekNext with
      | some (.tag handle suffix) => next; return (some name, some (← tagText handle suffix))
      | _ => return (some name, none)
  | some (.tag handle suffix) =>
      match ← peekNext with
      | some (.anchor name) => next; return (some name, some (← tagText handle suffix))
      | _ => return (none, some (← tagText handle suffix))
  | _ => return (none, none)

def absent : Reading Node := do
  count 1
  return .absent

def aliasOf (name : String) : Reading Node := do
  match (← get).names.lookup name with
  | some (turn, number) => return .alias turn number
  | none => throw .unknownAlias

def endsBlockItem : Option Token → Bool
  | some .blockEntry | some .blockEnd => true
  | _ => false

def endsLooseItem : Option Token → Bool
  | some .blockEntry | some .key | some .value | some .blockEnd => true
  | _ => false

def endsBlockPart : Option Token → Bool
  | some .key | some .value | some .blockEnd => true
  | _ => false

def endsListKey : Option Token → Bool
  | some .value | some .flowEntry | some .closeList => true
  | _ => false

def endsMapKey : Option Token → Bool
  | some .value | some .flowEntry | some .closeMap => true
  | _ => false

mutual

/-- A node. `block` admits indented collections, and `loose` a list whose dashes
stand at the column of the key before it. -/
def node (block loose : Bool) : (fuel : Nat) → Reading Node
  | 0 => fail
  | fuel + 1 => do
      match ← peek with
      | some (.alias name) =>
          next
          count 1
          aliasOf name
      | _ =>
          let (name, tag) ← properties
          let token ← peek
          let name ← match name with
            | some name => pure (some (← register name))
            | none => pure none
          match token with
          | some (.scalar style text) =>
              next
              count 1
              record name (.scalar tag style text)
          | some .openList =>
              next
              count 2
              record name (.sequence tag (← listItems fuel true))
          | some .openMap =>
              next
              count 2
              record name (.mapping tag (← mapEntries fuel true))
          | some .blockEntry =>
              if loose then
                count 2
                record name (.sequence tag (← looseItems fuel))
              else missing name tag
          | some .blockSequence =>
              if block then
                next
                count 2
                record name (.sequence tag (← blockItems fuel))
              else missing name tag
          | some .blockMapping =>
              if block then
                next
                count 2
                record name (.mapping tag (← blockEntries fuel))
              else missing name tag
          | _ => missing name tag
where
  missing (name : Option (Nat × Nat)) (tag : Option String) : Reading Node := do
    if name.isNone && tag.isNone then fail
    else
      count 1
      record name (.scalar tag .plain "")

def blockItems : (fuel : Nat) → Reading (List Node)
  | 0 => fail
  | fuel + 1 => do
      match ← peek with
      | some .blockEntry =>
          let item ← if endsBlockItem (← peekNext) then absent else node true false fuel
          return item :: (← blockItems fuel)
      | some .blockEnd => next; return []
      | _ => fail

def looseItems : (fuel : Nat) → Reading (List Node)
  | 0 => fail
  | fuel + 1 => do
      match ← peek with
      | some .blockEntry =>
          let item ← if endsLooseItem (← peekNext) then absent else node true false fuel
          return item :: (← looseItems fuel)
      | _ => return []

def blockEntries : (fuel : Nat) → Reading (List (Node × Node))
  | 0 => fail
  | fuel + 1 => do
      match ← peek with
      | some .key =>
          let key ← if endsBlockPart (← peekNext) then absent else node true true fuel
          let value ← match ← peek with
            | some .value => if endsBlockPart (← peekNext) then absent else node true true fuel
            | _ => absent
          return (key, value) :: (← blockEntries fuel)
      | some .blockEnd => next; return []
      | _ => fail

/-- The items of a bracketed list; a pair among them is a map of one entry. -/
def listItems (fuel : Nat) (first : Bool) : Reading (List Node) :=
  match fuel with
  | 0 => fail
  | fuel + 1 => do
      let token ← peek
      if token == some .closeList then next; return []
      else
        let token ←
          if first then pure token
          else if token == some .flowEntry then peekNext
          else fail
        match token with
        | some .closeList => next; return []
        | some .key =>
            count 2
            let key ← do
              let token ← peekNext
              if endsListKey token then next; absent else node false false fuel
            let value ← match ← peek with
              | some .value =>
                  match ← peekNext with
                  | some .flowEntry | some .closeList => absent
                  | _ => node false false fuel
              | _ => absent
            return .mapping none [(key, value)] :: (← listItems fuel false)
        | _ =>
            let item ← node false false fuel
            return item :: (← listItems fuel false)

def mapEntries (fuel : Nat) (first : Bool) : Reading (List (Node × Node)) :=
  match fuel with
  | 0 => fail
  | fuel + 1 => do
      let token ← peek
      if token == some .closeMap then next; return []
      else
        let token ←
          if first then pure token
          else if token == some .flowEntry then peekNext
          else fail
        match token with
        | some .closeMap => next; return []
        | some .key =>
            let key ← if endsMapKey (← peekNext) then absent else node false false fuel
            let value ← match ← peek with
              | some .value =>
                  match ← peekNext with
                  | some .flowEntry | some .closeMap => absent
                  | _ => node false false fuel
              | _ => absent
            return (key, value) :: (← mapEntries fuel false)
        | _ =>
            let key ← node false false fuel
            let value ← absent
            return (key, value) :: (← mapEntries fuel false)

end

def standardHandles : List (String × String) := [("!", "!"), ("!!", "tag:yaml.org,2002:")]

def directives : (fuel : Nat) → (versioned : Bool) → List (String × String) → Reading Unit
  | 0, _, _ => fail
  | fuel + 1, versioned, handles => do
      match ← peek with
      | some (.version major minor) =>
          if versioned || major != 1 || (minor != 1 && minor != 2) then fail
          next
          directives fuel true handles
      | some (.tagHandle handle expansion) =>
          if handles.any (·.1 == handle) then fail
          next
          directives fuel versioned ((handle, expansion) :: handles)
      | _ => modify fun outlook => { outlook with handles := handles ++ standardHandles }

def skipEnds : (fuel : Nat) → Reading Unit
  | 0 => return ()
  | fuel + 1 => do
      if (← peek) == some .documentEnd then
        next
        skipEnds fuel

def startsDocument : Option Token → Bool
  | some (.version _ _) | some (.tagHandle _ _) | some .documentStart => true
  | _ => false

/-- The next document, or none at the end of the stream. Only the first one can do
without a mark. -/
def document (fuel : Nat) (first : Bool) : Reading (Option Document) := do
  modify fun outlook =>
    { outlook with names := [], named := [], turns := 0, size := 0, handles := [] }
  if !first then skipEnds fuel
  match ← peek with
  | none => return none
  | token => do
      let root ←
        if first && !startsDocument token then do
          directives fuel false []
          node true false fuel
        else do
          directives fuel false []
          if (← peek) != some .documentStart then fail
          let token ← peekNext
          if token.isNone || token == some .documentEnd || startsDocument token then absent
          else node true false fuel
      if (← peek) == some .documentEnd then next
      let outlook ← get
      return some ⟨root, outlook.named, outlook.size⟩

/-- The documents up to the first fault, which takes the place of its document. -/
def documents (width : Nat) : (fuel : Nat) → (first : Bool) → Outlook → List (Except Fault Document)
  | 0, _, _ => []
  | fuel + 1, first, outlook =>
      match (document width first).run outlook with
      | .error fault => [.error fault]
      | .ok (none, _) => []
      | .ok (some document, outlook) => .ok document :: documents width fuel false outlook

end Reading

def Document.ofText (text : String) : List (Except Fault Document) :=
  let (tokens, fault) := Token.ofText text.toList
  let outlook : Outlook := ⟨tokens, fault, [], [], [], 0, 0⟩
  Reading.documents (4 * tokens.length + 16) (tokens.length + 1) true outlook

end PowerRota.Yaml
