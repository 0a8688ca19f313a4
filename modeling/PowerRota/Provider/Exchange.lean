import PowerRota.Error

/-! What is said between the rota and the provider: requests and replies. -/

set_option autoImplicit false

namespace PowerRota.Provider

open PowerRota.Calendar

structure Assertion where
  keyId : String
  issuer : String
  audience : String
  issued : Int
  expires : Int
  deriving DecidableEq, Repr

inductive Payload where
  | none
  | empty
  | password (token : String)
  | assertion (assertion : Assertion)
  deriving DecidableEq, Repr

inductive Method where
  | get
  | post
  deriving DecidableEq, Repr

def Method.label : Method → String
  | .get => "GET"
  | .post => "POST"

structure Request where
  method : Method
  url : String
  authorization : Option String
  payload : Payload
  deriving DecidableEq, Repr

structure Reply where
  status : Nat
  body : String
  deriving DecidableEq, Repr

abbrev Delivery := Option Reply

abbrev Correspondence := List (Request × Delivery)

/-- Answer by a rule that may heed all that was said before, and write it down. -/
def Correspondence.answer (rule : Correspondence → Request → Delivery)
    (correspondence : Correspondence) (request : Request) : Correspondence × Delivery :=
  let delivery := rule correspondence request
  (correspondence ++ [(request, delivery)], delivery)

structure Endpoints where
  compute : String
  clusters : String
  operations : String
  tokens : String
  deriving DecidableEq, Repr

namespace Endpoints

def standard : Endpoints where
  compute := "https://compute.api.cloud.yandex.net/compute/v1"
  clusters := "https://mks.api.cloud.yandex.net/managed-kubernetes/v1"
  operations := "https://operation.api.cloud.yandex.net"
  tokens := "https://iam.api.cloud.yandex.net/iam/v1/tokens"

def resource (endpoints : Endpoints) (resource : Resource) : String :=
  match resource.kind with
  | .vm => endpoints.compute ++ "/instances/" ++ resource.id
  | .cluster => endpoints.clusters ++ "/clusters/" ++ resource.id

def action (endpoints : Endpoints) (resource : Resource) (action : Action) : String :=
  endpoints.resource resource ++ ":" ++ action.label

def operation (endpoints : Endpoints) (id : String) : String :=
  endpoints.operations ++ "/operations/" ++ id

end Endpoints

end PowerRota.Provider
