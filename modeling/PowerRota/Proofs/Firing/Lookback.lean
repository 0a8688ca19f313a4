import Mathlib.Data.Set.Finite.Lemmas
import PowerRota.Calendar.Location
import PowerRota.Proofs.Cron.Walk

/-! The last fire of a cron rule, where the clock never changes.

The windows of the search lie one inside the other. The widest that has fewer fires than
the walk has steps gives the answer, and it may be one without any fire. -/

set_option autoImplicit false

namespace PowerRota

open PowerRota.Calendar

namespace Cron.Expression

variable {expression : Expression} {zone : Zone} {now : Instant}

theorem yearBefore?_le (unchanging : zone.Unchanging) {start : Instant}
    (found : yearBefore? zone now = some start) :
    start ≤ now.addNanos (-(86400 * Instant.nanosPerSecond)) := by
  obtain ⟨past, occurrence, found⟩ := Option.bind_eq_some_iff.mp found
  have earlier : past.toDay < zone.wallAt now.second / 86400 := by
    have positive := (Date.ofDay_valid (zone.wallAt now.second / 86400)).2.2.1
    obtain ⟨_, day⟩ := (Date.toDay_monthOccurrence?_eq_some_iff positive).mp
      (Option.map_eq_some_iff.mpr ⟨past, occurrence, rfl⟩)
    -- the month twelve months back ends before the month of today begins
    rw [day]
    calc monthDay _ (monthOf (zone.wallAt now.second / 86400) + -12)
        < monthStart (monthOf (zone.wallAt now.second / 86400) + -12 + 1) :=
          (monthDay_bounds positive _).2
      _ < monthStart (monthOf (zone.wallAt now.second / 86400)) :=
          monthStart_lt_iff.mpr (by omega)
      _ ≤ zone.wallAt now.second / 86400 := (monthOf_bounds _).1
  split at found
  next utc listed =>
    cases found
    have shown := (zone.mem_instantsAt _ utc).mp (listed ▸ List.mem_singleton_self utc)
    have same := unchanging.wallAt_sub utc now.second
    rw [Zone.wallAt, shown] at same
    simp only [Instant.le_def, Instant.addNanos, Instant.ofSecond, Instant.fraction,
      Instant.second, Instant.nanosPerSecond] at same earlier ⊢
    omega
  next => cases found

theorem lookbackStarts_ordered (unchanging : zone.Unchanging) (now : Instant) :
    (lookbackStarts zone now).Pairwise (· ≤ ·) := by
  have back {seconds fewer : Int} (le : fewer ≤ seconds) :
      now.addNanos (-(seconds * Instant.nanosPerSecond)) ≤
        now.addNanos (-(fewer * Instant.nanosPerSecond)) := by
    simp only [Instant.le_def, Instant.addNanos, Instant.nanosPerSecond]
    omega
  have near : [now.addNanos (-(86400 * Instant.nanosPerSecond)),
      now.addNanos (-(3600 * Instant.nanosPerSecond)),
      now.addNanos (-(60 * Instant.nanosPerSecond))].Pairwise (· ≤ ·) :=
    List.pairwise_cons.mpr ⟨by simp [back], List.pairwise_pair.mpr (back (by decide))⟩
  unfold lookbackStarts
  cases found : yearBefore? zone now with
  | none => exact near
  | some start =>
    refine List.pairwise_cons.mpr ⟨fun other member => ?_, near⟩
    have far := yearBefore?_le unchanging found
    rcases List.mem_cons.mp member with rfl | member
    · exact far
    · exact Int.le_trans far ((List.pairwise_cons.mp near).1 other member)

theorem lt_of_mem_lookbackStarts (unchanging : zone.Unchanging) {start : Instant}
    (member : start ∈ lookbackStarts zone now) : start < now := by
  have back {seconds : Int} (positive : 0 < seconds) :
      now.addNanos (-(seconds * Instant.nanosPerSecond)) < now := by
    simp only [Instant.lt_def, Instant.addNanos, Instant.nanosPerSecond]
    omega
  rcases List.mem_append.mp member with far | near
  · exact Int.lt_of_le_of_lt (yearBefore?_le unchanging (Option.mem_toList.mp far))
      (back (by decide))
  · simp only [List.mem_cons, List.not_mem_nil, or_false] at near
    rcases near with rfl | rfl | rfl <;> exact back (by decide)

/-- There is a fire for the walks to stop at, and a window that holds a fire and is
crossed within the limit. -/
def AnsweredFrom (expression : Expression) (zone : Zone) (now : Instant)
    (starts : List Instant) : Prop :=
  (∃ later, expression.Fires zone later ∧ now ≤ later) ∧
    ∃ start ∈ starts, (expression.firesBetween zone start now).Nonempty ∧
      (expression.firesBetween zone start now).encard < stepLimit

theorem exists_isLastOr {instants : Set Instant} (finite : instants.Finite) :
    ∃ answer, IsLastOr instants none answer := by
  rcases instants.eq_empty_or_nonempty with empty | nonempty
  · exact ⟨none, Or.inl ⟨empty, rfl⟩⟩
  · obtain ⟨last, member, greatest⟩ := Set.exists_max_image instants Instant.nanos finite nonempty
    exact ⟨some last, Or.inr ⟨last, rfl, member, fun other listed => greatest other listed⟩⟩

theorem firesBetween_subset {start other : Instant} (le : start ≤ other) :
    expression.firesBetween zone other now ⊆ expression.firesBetween zone start now :=
  fun _ ⟨fires, after, before⟩ => ⟨fires, Int.lt_of_le_of_lt le after, before⟩

/-- The first window that is crossed decides, for better or worse. -/
theorem findSome?_walkTo (wellFormed : expression.WellFormed) (forward : zone.Forward)
    {starts : List Instant} (ordered : starts.Pairwise (· ≤ ·))
    (before : ∀ start ∈ starts, start < now) :
    let found := (starts.findSome? fun start =>
      expression.walkTo zone now stepLimit ⟨start, none⟩ none).join
    (expression.AnsweredFrom zone now starts ∧ ∃ fire, found = some fire ∧
      IsGreatest {fire | expression.Fires zone fire ∧ fire < now} fire) ∨
    (¬ expression.AnsweredFrom zone now starts ∧ found = none) := by
  induction starts with
  | nil => exact Or.inr ⟨fun ⟨_, _, member, _⟩ => List.not_mem_nil member, rfl⟩
  | cons start rest ih =>
    obtain ⟨first, ordered⟩ := List.pairwise_cons.mp ordered
    have start_before := before start (List.mem_cons_self ..)
    have crossed {answer : Option Instant} :
        expression.walkTo zone now stepLimit ⟨start, none⟩ none = some answer ↔
          (expression.firesBetween zone start now).encard < stepLimit ∧
            (∃ later, expression.Fires zone later ∧ start < later ∧ now ≤ later) ∧
            IsLastOr (expression.firesBetween zone start now) none answer :=
      walkTo_eq_some_iff wellFormed forward
    rw [List.findSome?_cons]
    cases walked : expression.walkTo zone now stepLimit ⟨start, none⟩ none with
    | none =>
      -- the window is not crossed, so it is none of those that count
      have same : expression.AnsweredFrom zone now (start :: rest) ↔
          expression.AnsweredFrom zone now rest := by
        constructor
        · rintro ⟨⟨later, fires, ahead⟩, window, member, nonempty, few⟩
          rcases List.mem_cons.mp member with rfl | member
          · obtain ⟨answer, last⟩ := exists_isLastOr (Set.finite_of_encard_le_coe few.le)
            have reached := crossed.mpr
              ⟨few, ⟨later, fires, Int.lt_of_lt_of_le start_before ahead, ahead⟩, last⟩
            rw [walked] at reached
            cases reached
          · exact ⟨⟨later, fires, ahead⟩, window, member, nonempty, few⟩
        · rintro ⟨ahead, window, member, holds⟩
          exact ⟨ahead, window, List.mem_cons_of_mem _ member, holds⟩
      rw [same]
      exact ih ordered fun window member => before window (List.mem_cons_of_mem _ member)
    | some answer =>
      obtain ⟨few, ⟨later, fires, _, ahead⟩, last⟩ := crossed.mp walked
      rcases last with ⟨empty, rfl⟩ | ⟨fire, rfl, greatest⟩
      · refine Or.inr ⟨?_, rfl⟩
        rintro ⟨_, window, member, nonempty, _⟩
        -- the windows behind this one are narrower
        have le : start ≤ window := by
          rcases List.mem_cons.mp member with rfl | member
          · exact Int.le_refl _
          · exact first window member
        exact (nonempty.mono (firesBetween_subset le)).ne_empty empty
      · refine Or.inl ⟨⟨⟨later, fires, ahead⟩, start, List.mem_cons_self .., ⟨fire, greatest.1⟩,
          few⟩, fire, rfl, ⟨greatest.1.1, greatest.1.2.2⟩, ?_⟩
        rintro other ⟨fires', sooner⟩
        rcases Int.lt_or_le start.nanos other.nanos with after | outside
        · exact greatest.2 ⟨fires', after, sooner⟩
        · exact Int.le_of_lt (Int.lt_of_le_of_lt outside greatest.1.2.1)

/-- The windows in which the last fire before an instant is looked up have an answer. -/
def Answered (expression : Expression) (zone : Zone) (now : Instant) : Prop :=
  expression.AnsweredFrom zone now (lookbackStarts zone now)

theorem last?_spec (wellFormed : expression.WellFormed) (unchanging : zone.Unchanging)
    (now : Instant) :
    (expression.Answered zone now ∧ ∃ fire, expression.last? zone now = some fire ∧
      IsGreatest {fire | expression.Fires zone fire ∧ fire < now} fire) ∨
    (¬ expression.Answered zone now ∧ expression.last? zone now = none) :=
  findSome?_walkTo wellFormed unchanging.forward (lookbackStarts_ordered unchanging now)
    fun _ => lt_of_mem_lookbackStarts unchanging

end Cron.Expression

namespace FiringRule

open Cron.Expression

variable {zone : Zone}

theorem lastBefore_eq_of_cron (expression : Cron.Expression) (zone : Zone) (now : Instant) :
    (cron expression).lastBefore zone now =
      match expression.last? zone now with
      | some fire => .ok fire
      | none => .error (.noPriorFire now) := by
  unfold lastBefore
  rfl

/-- The last fire is there if the windows have an answer, and is the latest of all. -/
theorem lastBefore_cron {expression : Cron.Expression} (wellFormed : expression.WellFormed)
    (unchanging : zone.Unchanging) (now : Instant) :
    (expression.Answered zone now ∧ ∃ fire, (cron expression).lastBefore zone now = .ok fire ∧
      IsGreatest {fire | expression.Fires zone fire ∧ fire < now} fire) ∨
    (¬ expression.Answered zone now ∧
      (cron expression).lastBefore zone now = .error (.noPriorFire now)) := by
  rcases last?_spec wellFormed unchanging now with
    ⟨answered, last, found, greatest⟩ | ⟨unanswered, found⟩
  · exact Or.inl ⟨answered, last, by rw [lastBefore_eq_of_cron, found], greatest⟩
  · exact Or.inr ⟨unanswered, by rw [lastBefore_eq_of_cron, found]⟩

theorem answered_of_lastBefore {expression : Cron.Expression} (wellFormed : expression.WellFormed)
    (unchanging : zone.Unchanging) {now fire : Instant}
    (found : (cron expression).lastBefore zone now = .ok fire) :
    expression.Answered zone now := by
  rcases lastBefore_cron wellFormed unchanging now with ⟨answered, _⟩ | ⟨_, missing⟩
  · exact answered
  · rw [missing] at found
    cases found

/-- The last fire is found if some window is crossed within the limit that holds a fire;
it is then the latest of all fires before the instant. In all other cases there is none. -/
theorem lookback_exact {trigger : Trigger} {expression : Cron.Expression}
    (accepted : ofTrigger trigger = .ok (.cron expression)) (unchanging : zone.Unchanging)
    (now : Instant) :
    ((∃ fire, (cron expression).lastBefore zone now = .ok fire) ↔
      expression.Answered zone now) ∧
    ((cron expression).lastBefore zone now = .error (.noPriorFire now) ↔
      ¬ expression.Answered zone now) ∧
    ∀ fire, (cron expression).lastBefore zone now = .ok fire →
      IsGreatest {fire | expression.Fires zone fire ∧ fire < now} fire := by
  rcases lastBefore_cron (Cron.wellFormed_of_ofTrigger accepted) unchanging now with
    ⟨answered, last, found, greatest⟩ | ⟨unanswered, missing⟩
  · simp [found, answered, greatest]
  · simp [missing, unanswered]

def mondayMinutes : Cron.Expression :=
  ⟨[0], Cron.Field.everything .minute, Cron.Field.everything .hour,
    Cron.Field.everything .dayOfMonth, Cron.Field.everything .month, [2],
    Cron.Field.everything .year⟩

theorem ofTrigger_mondayMinutes : ofTrigger (.cron "* * * * 1") = .ok (.cron mondayMinutes) := by
  decide +kernel

theorem unchanging_machine : Location.machine.zone.Unchanging :=
  fun _ _ => rfl

/-- On a Monday at noon. -/
theorem lookback_exact_of_monday :
    let zone := Location.machine.zone
    let now := Instant.ofSecond 1709553600
    ofTrigger (.cron "* * * * 1") = .ok (.cron mondayMinutes) ∧ zone.Unchanging ∧
      ((∃ fire, (cron mondayMinutes).lastBefore zone now = .ok fire) ↔
        mondayMinutes.Answered zone now) ∧
      ((cron mondayMinutes).lastBefore zone now = .error (.noPriorFire now) ↔
        ¬ mondayMinutes.Answered zone now) ∧
      ∀ fire, (cron mondayMinutes).lastBefore zone now = .ok fire →
        IsGreatest {fire | mondayMinutes.Fires zone fire ∧ fire < now} fire :=
  ⟨ofTrigger_mondayMinutes, unchanging_machine,
    lookback_exact ofTrigger_mondayMinutes unchanging_machine _⟩

/-- The fires of seven Mondays, from 11 September 2023 on. -/
theorem fires_mondayMinutes {n : Nat} (inside : n < 10080) :
    mondayMinutes.Fires Location.machine.zone
      (.ofSecond ((19611 + 7 * (n / 1440 : Nat)) * 86400 + 60 * (n % 1440 : Nat))) := by
  have days : ∀ week < 7, mondayMinutes.fitsDay (19611 + 7 * (week : Nat)) = true := by
    decide +kernel
  have minutes (minute : Nat) (day : minute < 1440) :
      mondayMinutes.fitsClock (60 * minute) = true := by
    rw [fitsClock_iff, mondayMinutes, Cron.Field.mem_everything, Cron.Field.mem_everything,
      Cron.Field.admits_iff, Cron.Field.admits_iff, List.mem_singleton]
    simp only [Cron.Field.least, Cron.Field.greatest]
    omega
  have shown (utc : Int) : Location.machine.zone.wallAt utc = utc := Int.add_zero utc
  refine ⟨_, rfl, (fits_iff ..).mpr ?_⟩
  rw [shown]
  have day : ((19611 + 7 * (n / 1440 : Nat)) * 86400 + 60 * (n % 1440 : Nat) : Int) / 86400 =
      19611 + 7 * (n / 1440 : Nat) := by omega
  have clock : (((19611 + 7 * (n / 1440 : Nat)) * 86400 + 60 * (n % 1440 : Nat) : Int) %
      86400).toNat = 60 * (n % 1440) := by omega
  rw [day, clock]
  exact ⟨days _ (by omega), minutes _ (by omega)⟩

/-- On the Wednesday after, the walk through a year ends before it gets to `now`, and the
window of a day, which is crossed, holds no fire. -/
theorem unanswered_mondayMinutes :
    ¬ mondayMinutes.Answered Location.machine.zone (.ofSecond 1709726400) := by
  have starts : lookbackStarts Location.machine.zone (.ofSecond 1709726400) =
      [.ofSecond 1678104000, .ofSecond 1709640000, .ofSecond 1709722800,
        .ofSecond 1709726340] := by
    decide +kernel
  -- from Tuesday on there is no Monday
  have barren {start : Int} (near : 1709640000 ≤ start) :
      ¬ (mondayMinutes.firesBetween Location.machine.zone (.ofSecond start)
        (.ofSecond 1709726400)).Nonempty := by
    rintro ⟨_, ⟨utc, rfl, fits⟩, after, before⟩
    have tuesday : mondayMinutes.fitsDay 19787 = false := by decide +kernel
    have wednesday : mondayMinutes.fitsDay 19788 = false := by decide +kernel
    have day := ((fits_iff ..).mp fits).1
    have shown : Location.machine.zone.wallAt utc = utc := Int.add_zero utc
    simp only [Instant.lt_def, Instant.ofSecond, Instant.nanosPerSecond] at after before
    have either : utc / 86400 = 19787 ∨ utc / 86400 = 19788 := by omega
    rw [shown] at day
    rcases either with same | same <;> rw [same] at day <;> simp_all
  rintro ⟨_, start, member, nonempty, few⟩
  rw [starts] at member
  simp only [List.mem_cons, List.not_mem_nil, or_false] at member
  rcases member with rfl | rfl | rfl | rfl
  · -- seven Mondays have more minutes than the walk through a year has steps
    have many : (10080 : ENat) ≤ (mondayMinutes.firesBetween Location.machine.zone
        (.ofSecond 1678104000) (.ofSecond 1709726400)).encard := by
      have mondays : Set.encard (Finset.range 10080 : Set Nat) = 10080 := by
        rw [Set.encard_coe_eq_coe_finsetCard, Finset.card_range]
        rfl
      rw [← mondays]
      refine Set.encard_le_encard_of_injOn (f := fun n => Instant.ofSecond
        ((19611 + 7 * (n / 1440 : Nat)) * 86400 + 60 * (n % 1440 : Nat))) ?_ ?_
      · intro n member
        have inside : n < 10080 := Finset.mem_range.mp member
        refine ⟨fires_mondayMinutes inside, ?_, ?_⟩ <;>
          simp only [Instant.lt_def, Instant.ofSecond, Instant.nanosPerSecond] <;> omega
      · intro n _ other _ same
        have nanos := congrArg Instant.nanos same
        simp only [Instant.ofSecond, Instant.nanosPerSecond] at nanos
        omega
    exact absurd (lt_of_le_of_lt many few) (by decide +kernel)
  all_goals exact barren (by decide) nonempty

/-- A rule can have fired many times in the last twelve months, the last time two days
ago, and yet have no last fire. -/
theorem no_prior_fire_after_dense_year :
    ¬ ∀ (trigger : Trigger) (expression : Cron.Expression) (zone : Zone) (now : Instant),
      ofTrigger trigger = .ok (.cron expression) → zone.Unchanging →
      (∃ start fire, yearBefore? zone now = some start ∧
        expression.Fires zone fire ∧ start < fire ∧ fire < now) →
      ∃ fire, (cron expression).lastBefore zone now = .ok fire := by
  intro complete
  have year : yearBefore? Location.machine.zone (.ofSecond 1709726400) =
      some (.ofSecond 1678104000) := by
    decide +kernel
  obtain ⟨fire, found⟩ := complete _ _ _ _ ofTrigger_mondayMinutes unchanging_machine
    ⟨_, _, year, fires_mondayMinutes (n := 0) (by decide), by decide +kernel, by decide +kernel⟩
  exact unanswered_mondayMinutes (answered_of_lastBefore
    (Cron.wellFormed_of_ofTrigger ofTrigger_mondayMinutes) unchanging_machine found)

end FiringRule

end PowerRota
