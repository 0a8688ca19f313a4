import PowerRota.Json.Decode
import PowerRota.Json.Reader
import PowerRota.Provider.Exchange

/-! What the provider answers about resources and operations, and how an operation is
followed to its end.

A start or a stop is asked for once. The provider answers with an operation, which
is asked about again and again until it is done. Each answer names the operation to
ask about next. -/

set_option autoImplicit false

namespace PowerRota.Provider

open PowerRota.Data

def decodeBool : Json → Except Fault Bool
  | .bool b => .ok b
  | other => other.wrongType "a boolean"

def decodeCode : Json → Except Fault Int
  | .int n =>
      if -(Number.capacity 63) ≤ n ∧ n < Number.capacity 63 then .ok n else .error (.wrongValue (.int n) "i64")
  | other => other.wrongType "i64"

def member {A : Type} (members : List (String × Json)) (name : String) (absent : A)
    (decode : Json → Except Fault A) : Except Fault A :=
  match members.lookup name with
  | some value => decode value
  | none => .ok absent

def item {A : Type} (items : List Json) (n : Nat) (absent : A)
    (decode : Json → Except Fault A) : Except Fault A :=
  match items[n]? with
  | some value => decode value
  | none => .ok absent

def checkLength (items : List Json) (count : Nat) : Except Fault Unit :=
  if count < items.length then .error (.wrongLength items.length "fewer elements in array")
  else .ok ()

def decodeStatus : Json → Except Fault String
  | .object members => do
      Json.checkUnique ["status"] members
      member members "status" "" Json.decodeString
  | .array items => do
      checkLength items 1
      item items 0 "" Json.decodeString
  | other => other.wrongType "struct ResourceStatus"

structure OperationFault where
  code : Int
  message : String
  deriving DecidableEq, Repr

def OperationFault.decode : Json → Except Fault OperationFault
  | .object members => do
      Json.checkUnique ["code", "message"] members
      return ⟨← member members "code" 0 decodeCode,
        ← member members "message" "" Json.decodeString⟩
  | .array items => do
      checkLength items 2
      return ⟨← item items 0 0 decodeCode, ← item items 1 "" Json.decodeString⟩
  | other => other.wrongType "struct OperationError"

structure Operation where
  id : String
  done : Bool
  fault : Option OperationFault
  deriving DecidableEq, Repr

def Operation.decode : Json → Except Fault Operation
  | .object members => do
      Json.checkUnique ["id", "done", "error"] members
      return ⟨← Json.required members "id" Json.decodeString,
        ← member members "done" false decodeBool,
        ← Json.optional members "error" OperationFault.decode⟩
  | .array items => do
      checkLength items 3
      let id ← Json.element items 0 "struct Operation with 3 elements" Json.decodeString
      return ⟨id, ← item items 1 false decodeBool,
        ← item items 2 none (Json.decodeOption OperationFault.decode)⟩
  | other => other.wrongType "struct Operation"

/-- What the delivery of a request gives, for a purpose. -/
def received {A : Type} (purpose : CallPurpose) (url : String) (decode : Json → Except Fault A) :
    Delivery → Except Error A
  | none => .error (.cloud (.unsent purpose url))
  | some reply =>
      if isSuccess reply.status then
        match (Json.read? reply.body).map decode with
        | some (.ok value) => .ok value
        | _ => .error (.cloud (.reply purpose))
      else .error (.cloud (.refused purpose reply.status reply.body))

inductive MutationStage where
  | submitting
  | polling (operation : String)
  | ended (result : Except Error Unit)

structure Mutation where
  resource : Resource
  action : Action
  stage : MutationStage

namespace Mutation

def start (resource : Resource) (action : Action) : Mutation := ⟨resource, action, .submitting⟩

def purpose (mutation : Mutation) : CallPurpose := ⟨mutation.action.label, mutation.resource⟩

/-- The request that comes next. -/
def request? (mutation : Mutation) (endpoints : Endpoints) : Option Request :=
  match mutation.stage with
  | .submitting =>
      some ⟨.post, endpoints.action mutation.resource mutation.action, none, .empty⟩
  | .polling id => some ⟨.get, endpoints.operation id, none, .none⟩
  | .ended _ => none

def stageAfter (mutation : Mutation) (operation : Operation) : MutationStage :=
  if operation.done then
    match operation.fault with
    | some fault =>
        .ended (.error (.cloud
          (.operation mutation.purpose operation.id fault.code fault.message)))
    | none => .ended (.ok ())
  else .polling operation.id

/-- Take in the delivery of the request, or the reason why there was no request. -/
def receive (mutation : Mutation) (endpoints : Endpoints)
    (delivery : Except Error Delivery) : Mutation :=
  match mutation.request? endpoints with
  | none => mutation
  | some request =>
      let answer := do received mutation.purpose request.url Operation.decode (← delivery)
      match answer with
      | .ok operation => { mutation with stage := mutation.stageAfter operation }
      | .error error => { mutation with stage := .ended (.error error) }

end Mutation

end PowerRota.Provider
