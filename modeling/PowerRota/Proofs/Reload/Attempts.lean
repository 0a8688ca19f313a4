import Mathlib.Data.List.Chain
import PowerRota.Reload

/-! Runs of a reloader: looks at the source, and the reloads that they attempt.

What a look reads and what a reload comes to is left open. What the baseline remembers can be
told from the reloads so far: the applied signature is that of the last one that succeeded, and
the rejected signature that of the last one, if it failed. -/

set_option autoImplicit false

namespace PowerRota

/-- What a look at the source reads, and whether a reload would succeed. -/
structure Poll where
  signature : Except Error String
  succeeds : Bool

namespace Poll

def signature? (poll : Poll) : Option String := poll.signature.toOption

theorem signature?_eq_some_iff {poll : Poll} {signature : String} :
    poll.signature? = some signature ↔ poll.signature = .ok signature := by
  unfold signature?
  cases poll.signature <;> simp [Except.toOption]

def reload (poll : Poll) (calls : List Poll) : List Poll × Bool := (poll :: calls, poll.succeeds)

end Poll

namespace Baseline

variable {State : Type} {baseline : Baseline} {reload : State → State × Bool} {state : State}

inductive Looked (baseline : Baseline) (reload : State → State × Bool) (state : State) :
    Except Error String → Baseline × State × ReloadOutcome → Prop where
  | unreadable (error : Error) :
      Looked baseline reload state (.error error) (baseline, state, .sourceError)
  | known {signature : String} (known : baseline.isNew signature = false) :
      Looked baseline reload state (.ok signature) (baseline, state, .unchanged)
  | reloaded {signature : String} (new : baseline.isNew signature = true)
      (success : (reload state).2 = true) :
      Looked baseline reload state (.ok signature)
        (⟨some signature, none⟩, (reload state).1, .reloaded)
  | rejected {signature : String} (new : baseline.isNew signature = true)
      (failure : (reload state).2 = false) :
      Looked baseline reload state (.ok signature)
        ({ baseline with rejected := some signature }, (reload state).1, .rejected)

theorem check_looked (baseline : Baseline) (signature : Except Error String)
    (reload : State → State × Bool) (state : State) :
    Looked baseline reload state signature (baseline.check signature reload state) := by
  cases signature with
  | error error => exact .unreadable error
  | ok signature =>
    unfold check
    dsimp only
    cases new : baseline.isNew signature with
    | false => exact .known new
    | true =>
      cases success : (reload state).2 with
      | true => exact .reloaded new success
      | false => exact .rejected new success

theorem isNew_eq_true_iff {signature : String} :
    baseline.isNew signature = true ↔
      baseline.applied ≠ some signature ∧ baseline.rejected ≠ some signature := by
  simp [isNew]

end Baseline

/-- A baseline, and the polls that have called the reload, the last first. -/
structure Watch where
  baseline : Baseline
  calls : List Poll

namespace Watch

variable {watch : Watch} {primed? : Option String} {poll : Poll}

/-- A new reloader, primed with what was read of the source, if it was. -/
def begin (prime? : Option (Except Error String)) : Watch :=
  ⟨(prime?.bind fun read => (Baseline.start.prime read).toOption).getD .start, []⟩

def look (watch : Watch) (poll : Poll) : Watch × ReloadOutcome :=
  let (baseline, calls, outcome) := watch.baseline.check poll.signature poll.reload watch.calls
  (⟨baseline, calls⟩, outcome)

def after (watch : Watch) (polls : List Poll) : Watch :=
  polls.foldl (fun watch poll => (watch.look poll).1) watch

/-- The signature of the last call that succeeded, and without one that of the prime. -/
def appliedBy (primed? : Option String) (calls : List Poll) : Option String :=
  match calls.find? (·.succeeds) with
  | some call => call.signature?
  | none => primed?

/-- The signature of the last call, if it failed. -/
def rejectedBy : List Poll → Option String
  | [] => none
  | call :: _ => if call.succeeds then none else call.signature?

theorem appliedBy_succeeded {calls : List Poll} (success : poll.succeeds = true) :
    appliedBy primed? (poll :: calls) = poll.signature? := by
  simp only [appliedBy, List.find?_cons, success]

theorem appliedBy_failed {calls : List Poll} (failure : poll.succeeds = false) :
    appliedBy primed? (poll :: calls) = appliedBy primed? calls := by
  simp only [appliedBy, List.find?_cons, failure]

theorem rejectedBy_succeeded {calls : List Poll} (success : poll.succeeds = true) :
    rejectedBy (poll :: calls) = none := by
  rw [rejectedBy, if_pos success]

theorem rejectedBy_failed {calls : List Poll} (failure : poll.succeeds = false) :
    rejectedBy (poll :: calls) = poll.signature? := by
  simp only [rejectedBy, failure, Bool.false_eq_true, if_false]

/-- The baseline holds what the calls tell, and no two calls in a row are for one signature. -/
structure Remembers (primed? : Option String) (watch : Watch) : Prop where
  applied : watch.baseline.applied = appliedBy primed? watch.calls
  rejected : watch.baseline.rejected = rejectedBy watch.calls
  apart : watch.calls.IsChain fun later earlier => later.signature? ≠ earlier.signature?

namespace Remembers

theorem isNew_iff (remembers : Remembers primed? watch) {signature : String} :
    watch.baseline.isNew signature = true ↔ watch.baseline.applied ≠ some signature ∧
      ∀ call ∈ watch.calls.head?, call.signature? ≠ some signature := by
  rw [Baseline.isNew_eq_true_iff]
  have applied := remembers.applied
  have rejected := remembers.rejected
  cases called : watch.calls with
  | nil =>
    rw [called, rejectedBy] at rejected
    simp [rejected]
  | cons call calls =>
    rw [called] at applied rejected
    cases success : call.succeeds with
    | true =>
      rw [appliedBy_succeeded success] at applied
      rw [rejectedBy_succeeded success] at rejected
      simp [applied, rejected]
    | false =>
      rw [rejectedBy_failed success] at rejected
      simp [rejected]

theorem apart_cons (remembers : Remembers primed? watch) {signature : String}
    (read : poll.signature = .ok signature) (new : watch.baseline.isNew signature = true) :
    (poll :: watch.calls).IsChain fun later earlier => later.signature? ≠ earlier.signature? := by
  rw [List.isChain_cons]
  refine ⟨fun call last => ?_, remembers.apart⟩
  rw [Poll.signature?_eq_some_iff.mpr read]
  exact ((remembers.isNew_iff.mp new).2 call last).symm

theorem look (remembers : Remembers primed? watch) (poll : Poll) :
    Remembers primed? (watch.look poll).1 := by
  unfold Watch.look
  have looked := watch.baseline.check_looked poll.signature poll.reload watch.calls
  generalize read : poll.signature = signature, watch.baseline.check _ _ _ = result at looked ⊢
  cases looked with
  | unreadable => exact remembers
  | known => exact remembers
  | reloaded new success =>
    have told := Poll.signature?_eq_some_iff.mpr read
    refine ⟨?_, ?_, remembers.apart_cons read new⟩
    · exact ((appliedBy_succeeded success).trans told).symm
    · exact (rejectedBy_succeeded success).symm
  | rejected new failure =>
    have told := Poll.signature?_eq_some_iff.mpr read
    refine ⟨?_, ?_, remembers.apart_cons read new⟩
    · exact remembers.applied.trans (appliedBy_failed failure).symm
    · exact ((rejectedBy_failed failure).trans told).symm

theorem after (remembers : Remembers primed? watch) (polls : List Poll) :
    Remembers primed? (watch.after polls) := by
  induction polls generalizing watch with
  | nil => exact remembers
  | cons first polls ih => exact ih (remembers.look first)

end Remembers

theorem begin_remembers (prime? : Option (Except Error String)) :
    Remembers (prime?.bind Except.toOption) (begin prime?) := by
  cases prime? with
  | none => exact ⟨rfl, rfl, .nil⟩
  | some read => cases read <;> exact ⟨rfl, rfl, .nil⟩

theorem look_eq_or_calls (watch : Watch) (poll : Poll) :
    ((watch.look poll).2 = .unchanged ∨ (watch.look poll).2 = .sourceError) ∧
        (watch.look poll).1 = watch ∨
      ((watch.look poll).2 = .reloaded ∧ poll.succeeds = true ∨
          (watch.look poll).2 = .rejected ∧ poll.succeeds = false) ∧
        (watch.look poll).1.calls = poll :: watch.calls := by
  unfold look
  have looked := watch.baseline.check_looked poll.signature poll.reload watch.calls
  generalize poll.signature = signature, watch.baseline.check _ _ _ = result at looked ⊢
  cases looked with
  | unreadable => exact Or.inl ⟨Or.inr rfl, rfl⟩
  | known => exact Or.inl ⟨Or.inl rfl, rfl⟩
  | reloaded _ success => exact Or.inr ⟨Or.inl ⟨rfl, success⟩, rfl⟩
  | rejected _ failure => exact Or.inr ⟨Or.inr ⟨rfl, failure⟩, rfl⟩

/-- Between two calls for one signature there is a call for another. -/
def Separated (calls : List Poll) : Prop :=
  ∀ later second between first earlier,
    calls = later ++ second :: between ++ first :: earlier →
    second.signature? = first.signature? →
    ∃ call ∈ between, call.signature? ≠ first.signature?

theorem separated_of_apart {calls : List Poll}
    (apart : calls.IsChain fun later earlier => later.signature? ≠ earlier.signature?) :
    Separated calls := by
  rintro later second between first earlier rfl same
  rw [List.append_assoc] at apart
  have chain := (List.isChain_append.mp apart).2.1
  -- the call next to the second one is for another signature, so it is not the first one
  cases between with
  | nil => exact absurd same (List.isChain_cons_cons.mp chain).1
  | cons next between =>
    refine ⟨next, List.mem_cons_self .., fun alike => ?_⟩
    exact (List.isChain_cons_cons.mp chain).1 (same.trans alike.symm)

/-- The applied signature is that of the last reload that succeeded, and of the prime before the
first. A look changes nothing, or it calls the reload once and says how that went. No signature is
tried again before another one was tried. -/
theorem attempts_remembered (prime? : Option (Except Error String)) (polls : List Poll)
    (poll : Poll) :
    let watch := (begin prime?).after polls
    watch.baseline.applied = appliedBy (prime?.bind Except.toOption) watch.calls ∧
    (((watch.look poll).2 = .unchanged ∨ (watch.look poll).2 = .sourceError) ∧
        (watch.look poll).1 = watch ∨
      ((watch.look poll).2 = .reloaded ∧ poll.succeeds = true ∨
          (watch.look poll).2 = .rejected ∧ poll.succeeds = false) ∧
        (watch.look poll).1.calls = poll :: watch.calls) ∧
    Separated watch.calls := by
  intro watch
  have remembers := (begin_remembers prime?).after polls
  exact ⟨remembers.applied, watch.look_eq_or_calls poll, separated_of_apart remembers.apart⟩

/-- A draft is rejected and then let be, and what comes of it in the end is reloaded. -/
theorem attempts_remembered_of_mended_draft :
    let draft : Poll := ⟨.ok "draft", false⟩
    let mended : Poll := ⟨.ok "mended", true⟩
    let before := begin (some (.ok "first"))
    let watch := before.after [draft, draft, mended]
    (before.look draft).2 = .rejected ∧ ((before.after [draft]).look draft).2 = .unchanged ∧
      ((before.after [draft, draft]).look mended).2 = .reloaded ∧
      watch.calls = [mended, draft] ∧ watch.baseline.applied = some "mended" ∧
      Separated watch.calls := by
  intro draft mended before watch
  obtain ⟨applied, -, separated⟩ :=
    attempts_remembered (some (.ok "first")) [draft, draft, mended] draft
  exact ⟨rfl, rfl, rfl, rfl, applied, separated⟩

theorem after_concat (watch : Watch) (polls : List Poll) (last : Poll) :
    watch.after (polls ++ [last]) = ((watch.after polls).look last).1 := by
  simp only [after, List.foldl_append, List.foldl_cons, List.foldl_nil]

theorem look_of_known {signature : String} (read : poll.signature = .ok signature)
    (known : watch.baseline.isNew signature = false) : watch.look poll = (watch, .unchanged) := by
  simp [look, Baseline.check, read, known]

theorem calls_look_of_new {signature : String} (read : poll.signature = .ok signature)
    (new : watch.baseline.isNew signature = true) :
    (watch.look poll).1.calls = poll :: watch.calls := by
  unfold look
  rw [read]
  have looked := watch.baseline.check_looked (.ok signature) poll.reload watch.calls
  generalize watch.baseline.check _ _ _ = result at looked ⊢
  cases looked with
  | known known => cases new.symm.trans known
  | reloaded => rfl
  | rejected => rfl

theorem calls_look_iff {signature : String} (read : poll.signature = .ok signature) :
    (watch.look poll).1.calls = poll :: watch.calls ↔ watch.baseline.isNew signature = true := by
  cases new : watch.baseline.isNew signature with
  | true => simp only [calls_look_of_new read new]
  | false => simp [look_of_known read new]

/-- The last reload was for the signature, and failed. -/
def LastFailed (watch : Watch) (signature : String) : Prop :=
  ∃ call ∈ watch.calls.head?, call.signature = .ok signature ∧ call.succeeds = false

namespace Remembers

theorem isNew_iff_of_away (remembers : Remembers primed? watch) {signature : String}
    (away : watch.baseline.applied ≠ some signature) :
    watch.baseline.isNew signature = true ↔ ¬ watch.LastFailed signature := by
  rw [remembers.isNew_iff]
  have applied := remembers.applied
  cases called : watch.calls with
  | nil => simp [LastFailed, called, away]
  | cons call calls =>
    rw [called] at applied
    cases success : call.succeeds with
    | true =>
      rw [appliedBy_succeeded success] at applied
      rw [applied] at away ⊢
      simp [LastFailed, called, away, success]
    | false => simp [LastFailed, called, away, success, Poll.signature?_eq_some_iff]

/-- When the last reload failed and something else was read after it, that was the applied
source. -/
theorem applied_of_lastFailed (remembers : Remembers primed? watch) {last : Poll}
    {read signature : String} (before : last.signature = .ok read) (edited : signature ≠ read)
    (failed : (watch.look last).1.LastFailed signature) :
    (watch.look last).1.baseline.applied = some read := by
  obtain ⟨call, latest, tried, _⟩ := failed
  cases new : watch.baseline.isNew read with
  | true =>
    rw [calls_look_of_new before new] at latest
    obtain rfl := Option.some.inj latest
    exact absurd (Except.ok.inj (tried.symm.trans before)) edited
  | false =>
    rw [look_of_known before new] at latest ⊢
    dsimp only at latest ⊢
    by_contra away
    have other : ∀ call ∈ watch.calls.head?, call.signature? ≠ some read := by
      intro other also
      obtain rfl := Option.some.inj (latest.symm.trans also)
      rw [Ne, Poll.signature?_eq_some_iff, tried]
      exact fun same => edited (Except.ok.inj same)
    cases new.symm.trans (remembers.isNew_iff.mpr ⟨away, other⟩)

end Remembers

/-- A look that reads neither what the look before it read nor the applied signature calls the
reload, unless the look before it found the applied source again and the last reload was for
this very signature and failed. -/
theorem edit_attempted_iff (prime? : Option (Except Error String)) (polls : List Poll)
    (last poll : Poll) (read signature : String) (before : last.signature = .ok read)
    (now : poll.signature = .ok signature) (edited : signature ≠ read)
    (away : ((begin prime?).after (polls ++ [last])).baseline.applied ≠ some signature) :
    let watch := (begin prime?).after (polls ++ [last])
    (watch.look poll).1.calls = poll :: watch.calls ↔
      ¬ (watch.baseline.applied = some read ∧ watch.LastFailed signature) := by
  intro watch
  have remembers : Remembers _ watch := (begin_remembers prime?).after (polls ++ [last])
  rw [calls_look_iff now, remembers.isNew_iff_of_away away]
  refine not_congr ⟨fun failed => ⟨?_, failed⟩, And.right⟩
  have earlier := (begin_remembers prime?).after polls
  have concat : watch = _ := (begin prime?).after_concat polls last
  rw [concat] at failed ⊢
  exact earlier.applied_of_lastFailed before edited failed

/-- A draft that failed is tried again once another draft has been tried. -/
theorem edit_attempted_iff_of_other_draft :
    let draft (succeeds : Bool) : Poll := ⟨.ok "draft", succeeds⟩
    let other : Poll := ⟨.ok "other", false⟩
    let watch := (begin (some (.ok "first"))).after ([draft false] ++ [other])
    (draft true).signature = .ok "draft" ∧ other.signature = .ok "other" ∧
      "draft" ≠ "other" ∧ watch.baseline.applied ≠ some "draft" ∧
      (watch.look (draft true)).1.calls = draft true :: watch.calls := by
  intro draft other watch
  have edited : "draft" ≠ "other" := by decide
  have away : watch.baseline.applied ≠ some "draft" := by decide
  refine ⟨rfl, rfl, edited, away, ?_⟩
  refine (edit_attempted_iff (some (.ok "first")) [draft false] other (draft true) "other" "draft"
    rfl rfl edited away).mpr fun ⟨applied, _⟩ => ?_
  exact absurd applied (by decide)

/-- A draft that failed is not tried again after the source was put back in between. -/
theorem edit_not_attempted_after_revert :
    ¬ ∀ (prime? : Option (Except Error String)) (polls : List Poll) (last poll : Poll)
      (read signature : String), (∀ poll ∈ polls, poll.signature?.isSome) →
      last.signature = .ok read → poll.signature = .ok signature → signature ≠ read →
      ((begin prime?).after (polls ++ [last])).baseline.applied ≠ some signature →
      (((begin prime?).after (polls ++ [last])).look poll).1.calls =
        poll :: ((begin prime?).after (polls ++ [last])).calls := by
  intro attempted
  let draft (succeeds : Bool) : Poll := ⟨.ok "draft", succeeds⟩
  let first : Poll := ⟨.ok "first", true⟩
  have readable : ∀ poll ∈ [draft false], poll.signature?.isSome :=
    List.forall_mem_singleton.mpr rfl
  have calls := attempted (some (.ok "first")) [draft false] first (draft true) "first" "draft"
    readable rfl rfl (by decide) (by decide)
  exact absurd (congrArg List.length calls) (by decide)

end Watch

end PowerRota
