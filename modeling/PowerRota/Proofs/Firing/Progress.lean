import PowerRota.Calendar.Location
import PowerRota.Proofs.Cron.Search
import PowerRota.Proofs.Firing.LocalTime

/-! When the next fire is a later one.

Every rule but cron compares instants. Cron compares wall times, so where a clock was
put back it can lead to an instant that has passed, and never does so otherwise. -/

set_option autoImplicit false

namespace PowerRota

open PowerRota.Calendar

namespace FiringRule

variable {rule : FiringRule} {zone : Zone} {t : Instant}

/-- The first wall time from that of the following second on that the rule fits and the
zone shows was already shown by `t`. Only cron rules look at wall times in this way. -/
def Retraces (rule : FiringRule) (zone : Zone) (t : Instant) : Prop :=
  match rule with
  | .cron expression =>
      ∃ wall utc, IsLeast (expression.walls zone (zone.wallAt (t.second + 1))) wall ∧
        zone.wallAt utc = wall ∧ utc ≤ t.second
  | .daily _ | .weekly _ _ | .monthly _ _ _ | .interval _ _ | .once _ => False

theorem cron_progress {expression : Cron.Expression} (wellFormed : expression.WellFormed) :
    (∀ fire, expression.next? zone t = some fire → t < fire) ↔
      ¬ (cron expression).Retraces zone t := by
  constructor
  · rintro later ⟨wall, utc, least, shown, passed⟩
    -- the search gives the first showing, which is not after the one that has passed
    obtain ⟨first, earliest⟩ := Zone.earliestAt?_isSome shown
    have fired : expression.next? zone t = some (.ofSecond first) :=
      (Cron.Expression.next?_spec wellFormed zone t _).mpr ⟨wall, first, least, earliest, rfl⟩
    have ahead := Instant.lt_ofSecond_iff.mp (later _ fired)
    have before := Zone.le_of_earliestAt? earliest shown
    omega
  · intro never fire fired
    obtain ⟨wall, utc, least, earliest, rfl⟩ :=
      (Cron.Expression.next?_spec wellFormed zone t fire).mp fired
    refine Instant.lt_ofSecond_iff.mpr (Int.not_le.mp fun passed => never ?_)
    exact ⟨wall, utc, least, Zone.wallAt_of_earliestAt? earliest, passed⟩

theorem lt_of_firstAfter? {days : List Int} {time : TimeOfDay} {fire : Instant}
    (found : firstAfter? zone days time t = some fire) : t < fire := by
  have passes := List.find?_some found
  exact of_decide_eq_true passes

theorem lt_of_addNanos? {nanos : Int} (positive : 0 < nanos) {moved : Instant}
    (found : t.addNanos? nanos = some moved) : t < moved := by
  unfold Instant.addNanos? at found
  dsimp only at found
  split at found
  · cases found
    exact Int.lt_add_of_pos_right _ positive
  · cases found

theorem toNanos_pos {every : Duration} (positive : every.isZero = false) :
    (0 : Int) < every.toNanos := by
  have nonzero : every.toNanos ≠ 0 := beq_eq_false_iff_ne.mp positive
  omega

theorem next_progress {trigger : Trigger} (accepted : ofTrigger trigger = .ok rule) :
    (∀ fire, rule.nextAfter zone t = some fire → t < fire) ↔ ¬ rule.Retraces zone t := by
  cases rule with
  | cron expression => exact cron_progress (Cron.wellFormed_of_ofTrigger accepted)
  | daily | weekly | monthly =>
    exact ⟨fun _ => id, fun _ fire found => lt_of_firstAfter? found⟩
  | interval every positive =>
    exact ⟨fun _ => id, fun _ fire found => lt_of_addNanos? (toNanos_pos positive) found⟩
  | once instant =>
    refine ⟨fun _ => id, fun _ fire found => ?_⟩
    simp only [nextAfter] at found
    split at found
    next later =>
      cases found
      exact later
    next => cases found

theorem chain_succ_of_next {fire : Instant} (found : rule.nextAfter zone t = some fire)
    (count : Nat) : rule.chain zone (count + 1) t = fire :: rule.chain zone count fire := by
  simp only [chain, found]

theorem chain_succ_of_exhausted (found : rule.nextAfter zone t = none) (count : Nat) :
    rule.chain zone (count + 1) t = [] := by
  simp only [chain, found]

theorem chain_increasing {trigger : Trigger} (accepted : ofTrigger trigger = .ok rule)
    {count : Nat} (forward : ∀ s ∈ t :: rule.chain zone count t, ¬ rule.Retraces zone s) :
    (t :: rule.chain zone count t).Pairwise (· < ·) := by
  induction count generalizing t with
  | zero => exact List.pairwise_singleton _ _
  | succ count ih =>
    cases found : rule.nextAfter zone t with
    | none =>
      rw [chain_succ_of_exhausted found]
      exact List.pairwise_singleton _ _
    | some fire =>
      -- what comes after the fire is a chain of its own, from the fire on
      rw [chain_succ_of_next found] at forward ⊢
      have rest := ih fun s member => forward s (List.mem_cons_of_mem _ member)
      have later := (next_progress accepted).mpr (forward t (List.mem_cons_self ..)) fire found
      refine List.pairwise_cons.mpr ⟨fun s member => ?_, rest⟩
      rcases List.mem_cons.mp member with rfl | member
      · exact later
      · exact Int.lt_trans later ((List.pairwise_cons.mp rest).1 s member)

theorem not_retraces_of_first {trigger : Trigger} (accepted : ofTrigger trigger = .ok rule)
    (increasing : (t :: rule.chain zone 1 t).Pairwise (· < ·)) : ¬ rule.Retraces zone t := by
  apply (next_progress accepted).mp
  intro fire found
  rw [chain_succ_of_next found] at increasing
  exact (List.pairwise_cons.mp increasing).1 fire (List.mem_cons_self ..)

theorem not_retraces_of_chain {trigger : Trigger} (accepted : ofTrigger trigger = .ok rule)
    (increasing : ∀ count, (t :: rule.chain zone count t).Pairwise (· < ·)) {count : Nat}
    {s : Instant} (member : s ∈ t :: rule.chain zone count t) : ¬ rule.Retraces zone s := by
  induction count generalizing t with
  | zero =>
    rw [List.mem_singleton.mp member]
    exact not_retraces_of_first accepted (increasing 1)
  | succ count ih =>
    rcases List.mem_cons.mp member with rfl | member
    · exact not_retraces_of_first accepted (increasing 1)
    cases found : rule.nextAfter zone t with
    | none =>
      rw [chain_succ_of_exhausted found] at member
      cases member
    | some fire =>
      rw [chain_succ_of_next found] at member
      refine ih (fun count => ?_) member
      have whole := increasing (count + 1)
      rw [chain_succ_of_next found] at whole
      exact (List.pairwise_cons.mp whole).2

/-- The next fire of an accepted rule is later unless the rule goes back there, and its
fires, each looked up after the one before, increase unless it goes back at one of them. -/
theorem progress_iff {trigger : Trigger} (accepted : ofTrigger trigger = .ok rule) (zone : Zone)
    (t : Instant) :
    ((∀ fire, rule.nextAfter zone t = some fire → t < fire) ↔ ¬ rule.Retraces zone t) ∧
    ((∀ count, (t :: rule.chain zone count t).Pairwise (· < ·)) ↔
      ∀ count, ∀ s ∈ t :: rule.chain zone count t, ¬ rule.Retraces zone s) :=
  ⟨next_progress accepted, fun increasing _ _ => not_retraces_of_chain accepted increasing,
    fun forward count => chain_increasing accepted (forward count)⟩

def halfPastOne : Cron.Expression :=
  ⟨[0], [30], [1], Cron.Field.everything .dayOfMonth, Cron.Field.everything .month,
    Cron.Field.everything .dayOfWeek, Cron.Field.everything .year⟩

theorem ofTrigger_halfPastOne : ofTrigger (.cron "30 1 * * *") = .ok (.cron halfPastOne) := by
  decide +kernel

theorem progress_iff_of_half_past_one :
    let zone := (Location.resolve "Europe/London").zone
    let t := Instant.ofSecond 1729991400
    let rule := cron halfPastOne
    ofTrigger (.cron "30 1 * * *") = .ok rule ∧
      ((∀ fire, rule.nextAfter zone t = some fire → t < fire) ↔ ¬ rule.Retraces zone t) ∧
      ((∀ count, (t :: rule.chain zone count t).Pairwise (· < ·)) ↔
        ∀ count, ∀ s ∈ t :: rule.chain zone count t, ¬ rule.Retraces zone s) :=
  ⟨ofTrigger_halfPastOne, progress_iff ofTrigger_halfPastOne _ _⟩

/-- Ten minutes after the clock of London was put back from two to one, the next half
past one is the one that was shown forty minutes ago. -/
theorem next_passed_in_fold :
    ¬ ∀ (trigger : Trigger) (rule : FiringRule) (location : Location) (t fire : Instant),
      ofTrigger trigger = .ok rule → rule.nextAfter location.zone t = some fire → t < fire := by
  intro later
  have fired : (cron halfPastOne).nextAfter (Location.resolve "Europe/London").zone
      (.ofSecond 1729991400) = some (.ofSecond 1729989000) := by
    decide +kernel
  have ahead := later _ _ _ _ _ ofTrigger_halfPastOne fired
  exact absurd ahead (by decide +kernel)

end FiringRule

end PowerRota
