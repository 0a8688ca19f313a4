import PowerRota.Proofs.Firing.Lookback

/-! The last fire of a cron rule is a fire, and the last one, where the clock never changes.

It does not matter which of the windows the search took it from: none of them ends before
`now`, so the last fire that a walk has met has no fire behind it. -/

set_option autoImplicit false

namespace PowerRota.FiringRule

open PowerRota.Calendar PowerRota.Cron.Expression

variable {expression : Cron.Expression} {zone : Zone} {now last t : Instant}

/-- What it means for a fire to be the last one before `now`. -/
structure IsLastFire (expression : Cron.Expression) (zone : Zone) (now last : Instant) :
    Prop where
  before : last < now
  fires : expression.Fires zone last
  silent : ∀ t, last < t → t < now → ¬ expression.Fires zone t
  /-- The clock shows no wall time that fits any more, once the second of the last fire is
  over. -/
  second_eq : ∀ t, last < t → t < now → expression.fits (zone.wallAt t.second) = true →
    t.second = last.second
  /-- Nor does the look ahead find anything in between. -/
  now_le_next : ∀ next, (cron expression).nextAfter zone last = some next → now ≤ next

theorem ofSecond_second_le (t : Instant) : Instant.ofSecond t.second ≤ t := by
  simp only [Instant.le_def, Instant.ofSecond, Instant.second, Instant.nanosPerSecond]
  omega

theorem second_eq_of_isGreatest
    (greatest : IsGreatest {fire | expression.Fires zone fire ∧ fire < now} last)
    (after : last < t) (before : t < now)
    (fits : expression.fits (zone.wallAt t.second) = true) : t.second = last.second := by
  have begins : expression.Fires zone (.ofSecond t.second) := ⟨_, rfl, fits⟩
  have sooner : Instant.ofSecond t.second < now :=
    Int.lt_of_le_of_lt (ofSecond_second_le t) before
  have below := Instant.second_le_of_le (greatest.2 ⟨begins, sooner⟩)
  have above := Instant.second_le_of_le (Int.le_of_lt after)
  simp only [Instant.second_ofSecond] at below
  omega

theorem isLastFire_of_isGreatest (wellFormed : expression.WellFormed) (forward : zone.Forward)
    (greatest : IsGreatest {fire | expression.Fires zone fire ∧ fire < now} last) :
    IsLastFire expression zone now last := by
  have silent (t : Instant) (after : last < t) (before : t < now) :
      ¬ expression.Fires zone t := by
    intro fires
    exact Int.not_le.mpr after (greatest.2 ⟨fires, before⟩)
  constructor
  case before => exact greatest.1.2
  case fires => exact greatest.1.1
  case silent => exact silent
  case second_eq =>
    intro t after before fits
    exact second_eq_of_isGreatest greatest after before fits
  case now_le_next =>
    intro next looked
    have finds := finds_next wellFormed forward last
    have found : expression.next? zone last = some next := looked
    rw [found] at finds
    apply Int.not_lt.mp
    intro before
    exact silent next finds.1.2 before finds.1.1

/-- Whatever is found as the last fire before an instant is just that. -/
theorem last_fire_sound {text : String} (accepted : ofCron text = .ok (.cron expression))
    (unchanging : zone.Unchanging)
    (found : (cron expression).lastBefore zone now = .ok last) :
    IsLastFire expression zone now last := by
  have wellFormed : expression.WellFormed := Cron.wellFormed_of_ofCron accepted
  rcases lastBefore_cron wellFormed unchanging now with
    ⟨_, fire, same, greatest⟩ | ⟨_, missing⟩
  · rw [found] at same
    cases same
    exact isLastFire_of_isGreatest wellFormed unchanging.forward greatest
  · rw [missing] at found
    cases found

-- A fire each second, looked up half a second after nine. The windows of a year and of a day
-- hold too many fires, so a narrower one has to give the answer.

def everySecond : Cron.Expression :=
  ⟨Cron.Field.everything .second, Cron.Field.everything .minute, Cron.Field.everything .hour,
    Cron.Field.everything .dayOfMonth, Cron.Field.everything .month,
    Cron.Field.everything .dayOfWeek, Cron.Field.everything .year⟩

theorem ofCron_everySecond : ofCron "* * * * * *" = .ok (.cron everySecond) := by
  decide +kernel

theorem everySecond_answered :
    everySecond.Answered Location.machine.zone ⟨1709715600500000000⟩ := by
  have nine : everySecond.Fires Location.machine.zone (.ofSecond 1709715600) :=
    ⟨_, rfl, by decide +kernel⟩
  have next : everySecond.Fires Location.machine.zone (.ofSecond 1709715601) :=
    ⟨_, rfl, by decide +kernel⟩
  -- in a minute there are sixty full seconds at most
  have within : everySecond.firesBetween Location.machine.zone
      (.addNanos ⟨1709715600500000000⟩ (-(60 * Instant.nanosPerSecond)))
      ⟨1709715600500000000⟩ ⊆
      ((Finset.range 60).image fun n => Instant.ofSecond (1709715541 + (n : Nat)) :
        Finset Instant) := by
    rintro _ ⟨⟨utc, rfl, _⟩, after, before⟩
    simp only [Instant.lt_def, Instant.addNanos, Instant.ofSecond, Instant.nanosPerSecond]
      at after before
    simp only [Finset.coe_image, Set.mem_image, Finset.mem_coe, Finset.mem_range]
    exact ⟨(utc - 1709715541).toNat, by omega, congrArg Instant.ofSecond (by omega)⟩
  have few : (everySecond.firesBetween Location.machine.zone
      (.addNanos ⟨1709715600500000000⟩ (-(60 * Instant.nanosPerSecond)))
      ⟨1709715600500000000⟩).encard < stepLimit := by
    calc (everySecond.firesBetween Location.machine.zone _ _).encard
      _ ≤ ((Finset.range 60).image _).card := by
        rw [← Set.encard_coe_eq_coe_finsetCard]
        exact Set.encard_le_encard within
      _ ≤ (60 : Nat) := Nat.cast_le.mpr Finset.card_image_le
      _ < stepLimit := by decide +kernel
  exact ⟨⟨_, next, by decide⟩, _, List.mem_append_right _ (by simp),
    ⟨_, nine, by decide, by decide⟩, few⟩

theorem last_fire_sound_of_every_second :
    let now : Instant := ⟨1709715600500000000⟩
    let nine := Instant.ofSecond 1709715600
    ofCron "* * * * * *" = .ok (.cron everySecond) ∧ Location.machine.zone.Unchanging ∧
      (cron everySecond).lastBefore Location.machine.zone now = .ok nine ∧
      IsLastFire everySecond Location.machine.zone now nine := by
  intro now nine
  have wellFormed : everySecond.WellFormed := Cron.wellFormed_of_ofCron ofCron_everySecond
  have fires : everySecond.Fires Location.machine.zone nine := ⟨_, rfl, by decide +kernel⟩
  have found : (cron everySecond).lastBefore Location.machine.zone now = .ok nine := by
    rcases lastBefore_cron wellFormed unchanging_machine now with
      ⟨_, last, found, greatest⟩ | ⟨unanswered, _⟩
    · obtain ⟨⟨utc, rfl, _⟩, before⟩ := greatest.1
      have above := greatest.2 ⟨fires, by decide⟩
      simp only [Instant.lt_def, Instant.le_def, Instant.ofSecond, Instant.nanosPerSecond, now,
        nine] at above before
      rw [found, show utc = 1709715600 by omega]
    · exact absurd everySecond_answered unanswered
  exact ⟨ofCron_everySecond, unchanging_machine, found,
    last_fire_sound ofCron_everySecond unchanging_machine found⟩

end PowerRota.FiringRule
