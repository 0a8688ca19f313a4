import PowerRota.Json.Writer
import PowerRota.Metrics.Exposition
import PowerRota.Shutdown

/-! The pages that the daemon serves. -/

set_option autoImplicit false

namespace PowerRota.Web

structure Response where
  status : Nat
  contentType : Option String
  body : String
  deriving DecidableEq, Repr

def text (status : Nat) (body : String) : Response :=
  ⟨status, some "text/plain; charset=utf-8", body⟩

def json (members : List (String × Json)) : Response :=
  ⟨200, some "application/json", (Json.object members).write⟩

def empty (status : Nat) : Response := ⟨status, none, ""⟩

structure View where
  phase : ShutdownPhase
  running : Bool
  metrics : Metrics

def readiness (view : View) : Response :=
  if view.phase ≠ .running then text 503 "shutting down"
  else if view.running then text 200 "ready"
  else text 503 "starting"

def name : String := "cloudnap"

def version : String := "0.1.0"

def page? (view : View) (path : String) : Option Response :=
  match path with
  | "/" => some (json [("name", .string name), ("version", .string version)])
  | "/health" => some (json [("status", .string "healthy"), ("version", .string version)])
  | "/health/live" => some (text 200 "ok")
  | "/health/ready" => some (readiness view)
  | "/metrics" => some ⟨200, some "text/plain; version=0.0.4", view.metrics.exposition⟩
  | _ => none

/-- Pages are for reading; a request for the head alone gets no body. -/
def respond (view : View) (method path : String) : Response :=
  match page? view path with
  | none => empty 404
  | some response =>
      if method = "GET" then response
      else if method = "HEAD" then { response with body := "" }
      else empty 405

end PowerRota.Web
