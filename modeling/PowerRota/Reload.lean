import PowerRota.Error

/-! Reloading schedules when their source has changed.

The source is known by a signature. The signature that was applied last is
remembered, and so is one that was refused after it, so that a refused source is
tried again only when it has changed. -/

set_option autoImplicit false

namespace PowerRota

inductive ReloadOutcome where
  | unchanged
  | reloaded
  | rejected
  | sourceError
  deriving DecidableEq, Repr

def ReloadOutcome.label : ReloadOutcome → String
  | .unchanged => "Unchanged"
  | .reloaded => "Reloaded"
  | .rejected => "Rejected"
  | .sourceError => "SourceError"

structure Baseline where
  applied : Option String
  rejected : Option String
  deriving DecidableEq, Repr

namespace Baseline

def start : Baseline := ⟨none, none⟩

/-- Take a signature as applied, without a reload. -/
def prime (baseline : Baseline) (signature : Except Error String) : Except Error Baseline :=
  signature.map fun signature => { baseline with applied := some signature }

def isNew (baseline : Baseline) (signature : String) : Bool :=
  baseline.applied ≠ some signature && baseline.rejected ≠ some signature

/-- A look at the source. The reload, which says whether it succeeds, acts on a state of its
own and is called only when the signature is new. -/
def check {State : Type} (baseline : Baseline) (signature : Except Error String)
    (reload : State → State × Bool) (state : State) : Baseline × State × ReloadOutcome :=
  match signature with
  | .error _ => (baseline, state, .sourceError)
  | .ok signature =>
      if baseline.isNew signature then
        let (state, success) := reload state
        if success then (⟨some signature, none⟩, state, .reloaded)
        else ({ baseline with rejected := some signature }, state, .rejected)
      else (baseline, state, .unchanged)

end Baseline

structure ReloadInterval where
  nanos : Nat
  nanos_pos : 0 < nanos
  deriving DecidableEq, Repr

namespace ReloadInterval

def ofNanos (nanos : Nat) : Except Error ReloadInterval :=
  if h : 0 < nanos then .ok ⟨nanos, h⟩ else .error (.invalidSetting .zeroReloadInterval)

def standard : ReloadInterval := ⟨10 * 1000000000, by decide⟩

end ReloadInterval

end PowerRota
