import PowerRota.Provider.Exchange

/-! A provider that follows a script, and writes down what it is asked. -/

set_option autoImplicit false

namespace PowerRota.Provider

structure Script where
  base : String
  listening : Bool
  /-- The replies of each route; the last one stays. -/
  replies : List (String × List Reply)
  requests : List Request
  deriving DecidableEq, Repr

namespace Script

def start (base : String) (listening : Bool) (replies : List (String × List Reply)) : Script :=
  ⟨base, listening, replies, []⟩

def endpoints (script : Script) : Endpoints :=
  ⟨script.base ++ "/compute", script.base ++ "/mks", script.base ++ "/op", script.base ++ "/iam"⟩

def route (script : Script) (request : Request) : String :=
  request.method.label ++ " " ++
    String.ofList (request.url.toList.drop script.base.length)

def notFound : Reply := ⟨404, "\x7b\"message\":\"not found\"\x7d"⟩

def reply (script : Script) (route : String) : Reply :=
  let before := (script.requests.filter fun request => script.route request == route).length
  let replies := (script.replies.lookup route).getD []
  (replies[min before (replies.length - 1)]?).getD notFound

def answer (script : Script) (request : Request) : Script × Delivery :=
  if script.listening then
    ({ script with requests := request :: script.requests },
      some (script.reply (script.route request)))
  else (script, none)

end Script

end PowerRota.Provider
