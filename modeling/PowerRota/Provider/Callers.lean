import PowerRota.Provider.Token

/-! Callers that share one source of tokens.

The source serves one caller at a time, in the order in which they came. The caller that is
served reads the clock, and takes the kept token or waits for an exchange. A caller may
leave while it waits. -/

set_option autoImplicit false

namespace PowerRota.Provider

open PowerRota.Calendar

structure Callers where
  signer : Signer
  endpoints : Endpoints
  credentials : Credentials
  cache : TokenCache
  now : Instant
  line : List Nat
  exchange : Option (Nat × Request)
  correspondence : Correspondence
  results : List (Nat × Except Error String)

inductive CallersMove where
  | wait (now : Instant)
  | arrive (caller : Nat)
  | leave (caller : Nat)
  | serve
  | receive (delivery : Delivery)
  /-- The caller that waits for the exchange leaves, and what comes back is lost. -/
  | abandon

namespace Callers

def start (signer : Signer) (endpoints : Endpoints) (credentials : Credentials) (now : Instant) :
    Callers :=
  ⟨signer, endpoints, credentials, none, now, [], none, [], []⟩

def report (callers : Callers) (caller : Nat) (result : Except Error String) : Callers :=
  { callers with results := callers.results ++ [(caller, result)] }

def serve (callers : Callers) (caller : Nat) : Callers :=
  match callers.cache.usable? callers.now with
  | some token => callers.report caller (.ok token.text)
  | none =>
      match tokenRequest callers.signer callers.endpoints callers.credentials callers.now with
      | .error error => callers.report caller (.error error)
      | .ok request => { callers with exchange := some (caller, request) }

def release (callers : Callers) (request : Request) (delivery : Delivery) : Callers :=
  { callers with
    exchange := none, correspondence := callers.correspondence ++ [(request, delivery)] }

def step? (callers : Callers) : CallersMove → Option Callers
  | .wait now => if callers.now ≤ now then some { callers with now } else none
  | .arrive caller => some { callers with line := callers.line ++ [caller] }
  | .leave caller => some { callers with line := callers.line.erase caller }
  | .serve =>
      match callers.exchange, callers.line with
      | none, caller :: line => some ({ callers with line }.serve caller)
      | _, _ => none
  | .receive delivery =>
      callers.exchange.map fun (caller, request) =>
        let (cache, result) := callers.cache.receive (tokenOf callers.endpoints delivery)
        { callers.release request delivery with cache }.report caller result
  | .abandon => callers.exchange.map fun (_, request) => callers.release request none

end Callers

end PowerRota.Provider
