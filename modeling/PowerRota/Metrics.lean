import PowerRota.Resource

/-! Counters of outcomes, skips and corrections, and their labels. -/

set_option autoImplicit false

namespace PowerRota

inductive OperationStatus where
  | success
  | error
  | skipped
  | dryRun
  deriving DecidableEq, Repr

def OperationStatus.label : OperationStatus → String
  | .success => "success"
  | .error => "error"
  | .skipped => "skipped"
  | .dryRun => "dry_run"

def OperationStatus.all : List OperationStatus := [.success, .error, .skipped, .dryRun]

inductive SkipReason where
  | inFlight
  | transitionalState
  | alreadyInState
  deriving DecidableEq, Repr

def SkipReason.label : SkipReason → String
  | .inFlight => "in_flight"
  | .transitionalState => "transitional_state"
  | .alreadyInState => "already_in_state"

def SkipReason.all : List SkipReason := [.inFlight, .transitionalState, .alreadyInState]

/-- Something to be counted. Actions are labels, since any label can be asked for. -/
inductive Count where
  | operation (kind : ResourceKind) (action : String) (status : OperationStatus)
  | skip (kind : ResourceKind) (action : String) (reason : SkipReason)
  | correction (kind : ResourceKind) (action : String)
  deriving DecidableEq, Repr

/-- How often each thing was counted, every thing at most once in the list. -/
abbrev Metrics := List (Count × Nat)

namespace Metrics

def get (metrics : Metrics) (count : Count) : Nat :=
  (metrics.lookup count).getD 0

def increment (count : Count) : Metrics → Metrics
  | [] => [(count, 1)]
  | (other, n) :: rest =>
      if other = count then (other, n + 1) :: rest else (other, n) :: increment count rest

theorem get_increment (metrics : Metrics) (count other : Count) :
    (metrics.increment count).get other =
      metrics.get other + if other = count then 1 else 0 := by
  induction metrics with
  | nil =>
    by_cases h : other = count
    · simp [increment, get, h]
    · have : (other == count) = false := by simpa using h
      simp [increment, get, List.lookup_cons, h, this]
  | cons head rest ih =>
    obtain ⟨thing, n⟩ := head
    simp only [get] at ih ⊢
    by_cases same : thing = count
    · subst same
      by_cases h : other = thing
      · simp [increment, h]
      · have : (other == thing) = false := by simpa using h
        simp [increment, List.lookup_cons, h, this]
    · by_cases h : other = thing
      · subst h; simp [increment, same]
      · have : (other == thing) = false := by simpa using h
        simp only [increment, same, if_false, List.lookup_cons, this, ih]

def incrementAll (metrics : Metrics) (counts : List Count) : Metrics :=
  counts.foldl (fun metrics count => metrics.increment count) metrics

end Metrics

end PowerRota
