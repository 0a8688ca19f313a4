import PowerRota.Provider.Operation
import PowerRota.Provider.Token

/-! Sessions with a provider: who asks, who answers, and what time it is. -/

set_option autoImplicit false

namespace PowerRota.Provider

open PowerRota.Calendar

/-- A provider that is in some state answers requests. -/
structure Session (State : Type) where
  signer : Signer
  endpoints : Endpoints
  credentials : Credentials
  cache : TokenCache
  now : Instant
  answer : State → Request → State × Delivery
  provider : State

namespace Session

variable {State : Type}

/-- A session with nothing kept yet, where every key that can be read signs. -/
def start (endpoints : Endpoints) (credentials : Credentials) (now : Instant)
    (answer : State → Request → State × Delivery) (provider : State) : Session State :=
  ⟨.sound, endpoints, credentials, none, now, answer, provider⟩

def deliver (session : Session State) (request : Request) : Session State × Delivery :=
  let (provider, delivery) := session.answer session.provider request
  ({ session with provider }, delivery)

def exchange (session : Session State) : Session State × Except Error Token :=
  match tokenRequest session.signer session.endpoints session.credentials session.now with
  | .error error => (session, .error error)
  | .ok request =>
      let (session, delivery) := session.deliver request
      (session, tokenOf session.endpoints delivery)

def token (session : Session State) : Session State × Except Error String :=
  match session.cache.usable? session.now with
  | some token => (session, .ok token.text)
  | none =>
      let (session, answer) := session.exchange
      let (cache, result) := session.cache.receive answer
      ({ session with cache }, result)

def send (session : Session State) (request : Request) :
    Session State × Except Error Delivery :=
  match session.token with
  | (session, .error error) => (session, .error error)
  | (session, .ok token) =>
      let (session, delivery) :=
        session.deliver { request with authorization := some ("Bearer " ++ token) }
      (session, .ok delivery)

def validateCredentials (session : Session State) : Session State × Except Error Unit :=
  let (session, result) := session.token
  (session, result.map fun _ => ())

def getState (session : Session State) (resource : Resource) :
    Session State × Except Error ResourceState :=
  let url := session.endpoints.resource resource
  let (session, delivery) := session.send ⟨.get, url, none, .none⟩
  let status := do received ⟨"get", resource⟩ url decodeStatus (← delivery)
  (session, status.map .ofStatus)

def advance (session : Session State) (mutation : Mutation) : Session State × Mutation :=
  match mutation.request? session.endpoints with
  | none => (session, mutation)
  | some request =>
      let (session, delivery) := session.send request
      (session, mutation.receive session.endpoints delivery)

/-- Follow a mutation, with one step for each reading of the clock. -/
def followAt : List Instant → Session State → Mutation → Session State × Mutation
  | [], session, mutation => (session, mutation)
  | now :: readings, session, mutation =>
      let (session, mutation) := { session with now }.advance mutation
      followAt readings session mutation

def follow : (fuel : Nat) → Session State → Mutation → Session State × Mutation
  | 0, session, mutation => (session, mutation)
  | fuel + 1, session, mutation =>
      match mutation.request? session.endpoints with
      | none => (session, mutation)
      | some request =>
          let (session, delivery) := session.send request
          follow fuel session (mutation.receive session.endpoints delivery)

end Session

end PowerRota.Provider
