import PowerRota.Config.Layers
import PowerRota.Files.Tree
import PowerRota.Text.Quoted
import PowerRota.Yaml.Decode

/-! The configuration file in its tree, and the messages of what can be wrong. -/

set_option autoImplicit false

namespace PowerRota.Config

/-- The content of the first file that a path may stand for. -/
def fileContent? (tree : Tree) (path : String) : Option Octets :=
  (candidates path).findSome? fun candidate => (tree.read candidate).toOption

def loadFrom (tree : Tree) (path : String) (environment : Environment) :
    Except LoadFault Settings :=
  if tree.isFolder path then .error (.folder path)
  else
    match (fileContent? tree path).bind Octets.text? with
    | some text => load path text environment
    | none => .error (.source path)

def lengthExpectation : String := "a duration such as \"10m\" or a number of seconds"

def LengthFault.message : LengthFault → String
  | .text fault => fault.message
  | .negative => "duration must not be negative"
  | .wrongType found =>
      "invalid type: " ++ found.describe Yaml.Value.dialect ++ ", expected " ++ lengthExpectation

def LoadFault.message (wording : Wording) : LoadFault → String
  | .folder path => path ++ " is a directory, expected a config file"
  | .source path => "Failed to load configuration from " ++ path ++ ": " ++ wording.config
  | .key => wording.config
  | .conversion name =>
      "Failed to deserialize configuration: " ++ wording.settingType ++ " " ++ name
  | .length fault => "Failed to deserialize configuration: " ++ fault.message
  | .limit fault => "Invalid configuration: " ++ fault.message

end PowerRota.Config
