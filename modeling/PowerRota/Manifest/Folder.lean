import PowerRota.Digest.Sha256
import PowerRota.Files.Listing
import PowerRota.Manifest.Document

/-! The schedules of a folder of manifests, and the signature of the folder.

Files are read in the order of their names, and no two schedules share a name. The
signature is the digest of a stream that holds the name and the content of every
manifest file, each followed by a zero octet. -/

set_option autoImplicit false

namespace PowerRota

inductive LoadFault where
  | folder (dir : String) (fault : FileFault)
  | noFiles (dir : String)
  | file (path : String) (fault : FileFault)
  | document (path : String) (number : Nat) (fault : DocumentFault)
  | duplicateName (name first second : String)
  | noSchedules (dir : String)
  | invalid (error : Error)
  deriving Repr

namespace Manifest

def readFile (path : String) (content : Octets) : Except LoadFault (List Schedule) :=
  match content.text? with
  | none => .error (.file path .notUtf8)
  | some text => (readText text).mapError fun (number, fault) => .document path number fault

/-- Add the schedules of a file to those before it; `origins` holds the file of each
name. -/
def addSchedules (path : String) (origins : List (String × String)) :
    List Schedule → Except LoadFault (List (String × String))
  | [] => .ok origins
  | schedule :: rest =>
      match origins.lookup schedule.name with
      | some first => .error (.duplicateName schedule.name first path)
      | none => addSchedules path (origins ++ [(schedule.name, path)]) rest

def readFiles (dir : String) (origins : List (String × String)) :
    List (String × Octets) → Except LoadFault (List Schedule)
  | [] => .ok []
  | (name, content) :: rest => do
      let path := Path.below dir name
      let schedules ← readFile path content
      let origins ← addSchedules path origins schedules
      return schedules ++ (← readFiles dir origins rest)

def readListing (dir : String) (listing : Listing) : Except LoadFault (List Schedule) := do
  let files := listing.manifests FolderEntry.reachable?
  if files.isEmpty then throw (.noFiles dir)
  let schedules ← readFiles dir [] files
  if schedules.isEmpty then throw (.noSchedules dir)
  match Schedule.validateAll schedules with
  | .ok _ => return schedules
  | .error error => throw (.invalid error)

def readFolder (dir : String) (listing : Except FileFault Listing) :
    Except LoadFault (List Schedule) := do
  readListing dir (← listing.mapError (.folder dir))

/-- The octets that stand for the manifests of a folder. -/
def signatureStream (listing : Listing) : Octets :=
  (listing.manifests FolderEntry.own?).flatMap fun (name, content) =>
    Octets.ofText name ++ 0 :: (content ++ [0])

def signature (listing : Listing) : String :=
  Sha256.digest (signatureStream listing)

end Manifest

end PowerRota
