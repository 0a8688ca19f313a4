import PowerRota.Metrics

/-! Counters in the text format for scraping.

Families come in the order of their names, and a family without a sample is left out.
The samples of a family are sorted by the values of their labels, which stand in the
order of the names of the labels. -/

set_option autoImplicit false

namespace PowerRota.Metrics

structure Family where
  name : String
  help : String

def operations : Family :=
  ⟨"cloudnap_operations_total", "Executor outcomes by resource type, action and status"⟩

def skips : Family := ⟨"cloudnap_scheduler_skips_total", "Skipped executions by reason"⟩

def corrections : Family :=
  ⟨"cloudnap_validator_corrections_total", "Corrective jobs submitted by the validator"⟩

def families : List Family := [operations, skips, corrections]

def labelled : Count → Family × List (String × String)
  | .operation kind action status =>
      (operations,
        [("action", action), ("resource_type", kind.label), ("status", status.label)])
  | .skip kind action reason =>
      (skips, [("action", action), ("reason", reason.label), ("resource_type", kind.label)])
  | .correction kind action =>
      (corrections, [("action", action), ("resource_type", kind.label)])

def escapeLabel (c : Char) : List Char :=
  match c with
  | '\\' => ['\\', '\\']
  | '"' => ['\\', '"']
  | '\n' => ['\\', 'n']
  | c => [c]

def labelText (label : String × String) : String :=
  label.1 ++ "=\"" ++ String.ofList (label.2.toList.flatMap escapeLabel) ++ "\""

def sampleText (family : Family) (labels : List (String × String)) (n : Nat) : String :=
  family.name ++ "\x7b" ++ String.intercalate "," (labels.map labelText) ++ "\x7d " ++ toString n ++
    "\n"

def valuesLe : List (String × String) → List (String × String) → Bool
  | [], _ => true
  | _, [] => false
  | (_, x) :: xs, (_, y) :: ys => if x = y then valuesLe xs ys else x ≤ y

def samples (metrics : Metrics) (family : Family) : List (List (String × String) × Nat) :=
  (metrics.filterMap fun (count, n) =>
    let (owner, labels) := labelled count
    if owner.name = family.name then some (labels, n) else none).mergeSort
    fun a b => valuesLe a.1 b.1

def familyText (metrics : Metrics) (family : Family) : String :=
  let samples := metrics.samples family
  if samples.isEmpty then ""
  else
    "# HELP " ++ family.name ++ " " ++ family.help ++ "\n# TYPE " ++ family.name ++ " counter\n" ++
      String.join (samples.map fun (labels, n) => sampleText family labels n)

def exposition (metrics : Metrics) : String :=
  String.join (families.map metrics.familyText)

end PowerRota.Metrics
