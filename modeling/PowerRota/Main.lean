import PowerRota.CommandLine.Usage
import PowerRota.Launch
import Std.Time.DateTime.Timestamp

/-! The program: it looks at the disk, the clock and the environment, and prints.

All that is decided is decided elsewhere. The program holds no transport, so that no
request reaches a provider: it lists jobs, and it tells why a daemon would not start. -/

set_option autoImplicit false

namespace PowerRota.Program

open PowerRota.Calendar PowerRota.CommandLine

def environmentFile : String := "/proc/self/environ"

def environment : IO Environment := do
  try
    let octets ← IO.FS.readBinFile environmentFile
    let entries := Text.split '\x00' ((String.fromUTF8? octets).getD "").toList
    return entries.filterMap fun entry =>
      match entry.dropWhile (· ≠ '=') with
      | _ :: value => some (String.ofList (entry.takeWhile (· ≠ '=')), String.ofList value)
      | [] => none
  catch _ => return []

def now : IO Instant := do
  return ⟨(← Std.Time.Timestamp.now).toNanosecondsSinceUnixEpoch.val⟩

def visit (tree : Tree) (path : String) : IO Tree := do
  try
    if ← ((← IO.currentDir) / path).isDir then return tree.addFolder path
    return tree.addFile path (← IO.FS.readBinFile path).data.toList
  catch _ => return tree

def visitFolder (tree : Tree) (path : String) : IO Tree := do
  try
    let entries ← ((← IO.currentDir) / path).readDir
    entries.toList.foldlM (fun tree entry => visit tree (Path.below path entry.fileName))
      (tree.addFolder path)
  catch _ => visit tree path

/-- All that a command line may need to see of the disk. -/
def disk (arguments : Arguments) (environment : Environment) : IO Tree := do
  let tree : Tree := .empty (Path.components (← IO.currentDir).toString)
  let some path := arguments.config | return tree
  let tree ← (Config.candidates path).foldlM visit tree
  let tree ← match arguments.keyFile with
    | some key => visit tree key
    | none => pure tree
  match Config.loadFrom tree path environment with
  | .ok settings => visitFolder tree settings.schedulesDir
  | .error _ => return tree

def refuse (refusal : Refusal) : IO UInt32 := do
  if refusal.isWanted then
    IO.println refusal.message
    return 0
  IO.eprintln refusal.message
  return 2

def fail (fault : LaunchFault) : IO UInt32 := do
  IO.eprintln ("Error: " ++ fault.message .english)
  return 1

def act (arguments : Arguments) (environment : Environment) : IO UInt32 := do
  let now ← now
  match perform arguments (← disk arguments environment) environment now with
  | .error fault => fail fault
  | .ok (.listing text) =>
      IO.print text
      return 0
  | .ok (.launch launch) =>
      match launch.contact now (fun (_ : Unit) _ => ((), none)) () with
      | .error fault => fail fault
      | .ok _ => return 0

def start (words : List String) : IO UInt32 := do
  let environment ← environment
  match Arguments.read environment words with
  | .error refusal => refuse refusal
  | .ok arguments => act arguments environment

end PowerRota.Program

def main (words : List String) : IO UInt32 := PowerRota.Program.start words
