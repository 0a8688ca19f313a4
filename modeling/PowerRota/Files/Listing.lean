import PowerRota.Error
import PowerRota.Files.Path

/-! What a folder holds, as one look at it shows.

An entry is a file, a folder or a link. A link to a file can be read like one, but
it is not a file of its own. The order of the entries means nothing. -/

set_option autoImplicit false

namespace PowerRota

abbrev Octets := List UInt8

def Octets.ofText (text : String) : Octets := text.toUTF8.data.toList

def Octets.text? (octets : Octets) : Option String := String.fromUTF8? ⟨octets.toArray⟩

inductive FolderEntry where
  | file (content : Octets)
  | folder
  /-- A link, and the content of the file that it leads to, if it does. -/
  | link (target : Option Octets)
  deriving DecidableEq, Repr

namespace FolderEntry

/-- The content that reading the entry gives. -/
def reachable? : FolderEntry → Option Octets
  | .file content => some content
  | .link target => target
  | .folder => none

/-- The content of the entry itself. -/
def own? : FolderEntry → Option Octets
  | .file content => some content
  | _ => none

end FolderEntry

/-- The entries of a folder by name, in the order they were met. -/
abbrev Listing := List (String × FolderEntry)

namespace Listing

def byName (first second : String × Octets) : Bool :=
  first.1 ≤ second.1

/-- The manifests among the entries, sorted by name; `content?` says which entries
count. -/
def manifests (content? : FolderEntry → Option Octets) (listing : Listing) :
    List (String × Octets) :=
  (listing.filterMap fun (name, entry) =>
    if Path.isManifest name then (content? entry).map fun content => (name, content)
    else none).mergeSort byName

end Listing

end PowerRota
