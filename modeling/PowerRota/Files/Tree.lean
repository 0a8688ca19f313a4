import PowerRota.Files.Listing

/-! A tree of files and folders below one root, and the ways to change it. Paths that
are not absolute start at the home of the tree. -/

set_option autoImplicit false

namespace PowerRota

inductive TreeNode where
  | file (content : Octets)
  | folder
  deriving DecidableEq, Repr

/-- The nodes below the root by their places. Every place above a node is a folder. -/
structure Tree where
  home : List String
  nodes : List (List String × TreeNode)

namespace Tree

def at? (tree : Tree) (place : List String) : Option TreeNode :=
  if place.isEmpty then some .folder else tree.nodes.lookup place

def walk (tree : Tree) : List String → List String → Except FileFault (List String)
  | place, [] => .ok place
  | place, part :: parts =>
      match tree.at? place with
      | none => .error .notFound
      | some (.file _) => .error .notDirectory
      | some .folder =>
          if part = "" ∨ part = "." then tree.walk place parts
          else if part = ".." then tree.walk place.dropLast parts
          else tree.walk (place ++ [part]) parts

def resolve (tree : Tree) (path : String) : Except FileFault (List String) :=
  if path = "" then .error .notFound
  else
    tree.walk (if Path.isAbsolute path then [] else tree.home)
      ((Text.split '/' path.toList).map String.ofList)

def find (tree : Tree) (path : String) : Except FileFault TreeNode := do
  match tree.at? (← tree.resolve path) with
  | some node => return node
  | none => throw .notFound

def isFolder (tree : Tree) (path : String) : Bool :=
  match tree.find path with
  | .ok .folder => true
  | _ => false

def read (tree : Tree) (path : String) : Except FileFault Octets := do
  match ← tree.find path with
  | .file content => return content
  | .folder => throw .isDirectory

def readText (tree : Tree) (path : String) : Except FileFault String := do
  match (← tree.read path).text? with
  | some text => return text
  | none => throw .notUtf8

def list (tree : Tree) (path : String) : Except FileFault Listing := do
  let place ← tree.resolve path
  match tree.at? place with
  | none => throw .notFound
  | some (.file _) => throw .notDirectory
  | some .folder =>
      return tree.nodes.filterMap fun (other, node) =>
        match other.reverse with
        | name :: above =>
            if above.reverse = place then
              some (name, match node with | .file content => .file content | .folder => .folder)
            else none
        | [] => none

def put (tree : Tree) (place : List String) (node : TreeNode) : Tree :=
  { tree with nodes := tree.nodes.filter (·.1 ≠ place) ++ [(place, node)] }

def makeFolders (tree : Tree) (place : List String) : Tree :=
  (List.range place.length).foldl
    (fun tree n =>
      let above := place.take (n + 1)
      if (tree.at? above).isSome then tree else tree.put above .folder)
    tree

def empty (home : List String) : Tree := makeFolders ⟨home, []⟩ home

def place (tree : Tree) (path : String) : List String :=
  (Path.components path).foldl
    (fun place part =>
      if part = "." then place else if part = ".." then place.dropLast else place ++ [part])
    (if Path.isAbsolute path then [] else tree.home)

def addFolder (tree : Tree) (path : String) : Tree :=
  tree.makeFolders (tree.place path)

def addFile (tree : Tree) (path : String) (content : Octets) : Tree :=
  let place := tree.place path
  (tree.makeFolders place.dropLast).put place (.file content)

/-- Write a file into a folder that stands. Nothing is written where a folder is. -/
def write (tree : Tree) (path : String) (content : Octets) : Tree :=
  match tree.resolve path with
  | .ok place => if tree.at? place = some .folder then tree else tree.put place (.file content)
  | .error _ => tree

def remove (tree : Tree) (path : String) : Tree :=
  match tree.resolve path with
  | .ok place =>
      match tree.at? place with
      | some (.file _) => { tree with nodes := tree.nodes.filter (·.1 ≠ place) }
      | _ => tree
  | .error _ => tree

/-- Give a node another place, together with all below it. A folder does not take
the place of a file or of a folder that holds something, nor go below itself. -/
def rename (tree : Tree) (source target : String) : Tree :=
  match tree.resolve source, tree.resolve target with
  | .ok old, .ok new =>
      let occupied := tree.nodes.any fun (place, _) => new.isPrefixOf place && place != new
      let parentStands := tree.at? new.dropLast == some .folder
      let allowed := match tree.at? old, tree.at? new with
        | some (.file _), some .folder => false
        | some (.file _), _ => true
        | some .folder, some (.file _) => false
        | some .folder, _ => !occupied && !old.isPrefixOf new
        | none, _ => false
      if old = new || !allowed || !parentStands || old.isEmpty then tree
      else
        { tree with
          nodes := (tree.nodes.filter (·.1 ≠ new)).map fun (place, node) =>
            if old.isPrefixOf place then (new ++ place.drop old.length, node)
            else (place, node) }
  | _, _ => tree

end Tree

end PowerRota
