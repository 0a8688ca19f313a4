import PowerRota.Proofs.Calendar.Months
import PowerRota.Proofs.Cron.Clock

/-! The search over days finds the least wall time that fits and that the zone shows. -/

set_option autoImplicit false

namespace PowerRota.Cron.Expression

open PowerRota.Calendar

variable {expression : Expression} {zone : Zone}

/-- The wall times from `start` on that fit and that the zone shows. -/
def walls (expression : Expression) (zone : Zone) (start : Int) : Set Int :=
  {wall | start ≤ wall ∧ expression.fits wall = true ∧ ∃ utc, zone.wallAt utc = wall}

theorem fits_iff (expression : Expression) (wall : Int) :
    expression.fits wall = true ↔ expression.fitsDay (wall / 86400) = true ∧
      expression.fitsClock (wall % 86400).toNat = true :=
  Bool.and_eq_true_iff

theorem lt_wallEnd_of_fits (wellFormed : expression.WellFormed) {wall : Int}
    (fits : expression.fits wall = true) : wall < wallEnd := by
  have day := ((fits_iff ..).mp fits).1
  simp only [fitsDay, Bool.and_eq_true, decide_eq_true_eq, List.contains_iff_mem] at day
  obtain ⟨⟨⟨⟨positive, year⟩, _⟩, _⟩, _⟩ := day
  have last : (Date.ofDay (wall / 86400)).year.toNat ≤ 2100 := wellFormed.years.le year
  have inside : wall / 86400 < yearStart ((Date.ofDay (wall / 86400)).year + 1) :=
    (Date.yearOf_bounds (wall / 86400)).2
  have mono : yearStart ((Date.ofDay (wall / 86400)).year + 1) ≤ yearStart 2101 := by
    apply Int.not_lt.mp
    intro later
    have year_later := yearStart_lt_iff.mp later
    omega
  show wall < yearStart 2101 * 86400
  omega

theorem walls_eq_of_gap {start later : Int} (le : start ≤ later)
    (gap : ∀ wall, start ≤ wall → wall < later → wall ∉ expression.walls zone start) :
    expression.walls zone start = expression.walls zone later := by
  ext wall
  constructor
  · intro member
    refine ⟨Int.not_lt.mp fun below => ?_, member.2⟩
    exact gap wall member.1 below member
  · exact fun member => ⟨Int.le_trans le member.1, member.2⟩

theorem walls_eq_next_day {start : Int}
    (barren : ∀ clock, (start % 86400).toNat ≤ clock →
      ¬ (expression.fitsDay (start / 86400) = true ∧ expression.fitsClock clock = true)) :
    expression.walls zone start = expression.walls zone ((start / 86400 + 1) * 86400) := by
  apply walls_eq_of_gap (by omega)
  intro wall above below member
  have same_day : wall / 86400 = start / 86400 := by omega
  obtain ⟨day, clock⟩ := (fits_iff ..).mp member.2.1
  rw [same_day] at day
  exact barren _ (by omega) ⟨day, clock⟩

theorem first_of_firstClock? (wellFormed : expression.WellFormed) {start : Int} {clock : Nat}
    (day : expression.fitsDay (start / 86400) = true)
    (found : expression.firstClock? (start % 86400).toNat = some clock) :
    start ≤ start / 86400 * 86400 + clock ∧
      expression.fits (start / 86400 * 86400 + clock) = true ∧
      ∀ wall, start ≤ wall → expression.fits wall = true →
        start / 86400 * 86400 + clock ≤ wall := by
  have least := finds_clocks wellFormed (start % 86400).toNat
  rw [found] at least
  obtain ⟨⟨above, fits⟩, least⟩ := least
  have bound := fitsClock_lt wellFormed fits
  have same_day : (start / 86400 * 86400 + clock) / 86400 = start / 86400 := by omega
  have same_clock : ((start / 86400 * 86400 + clock) % 86400).toNat = clock := by omega
  refine ⟨by omega, ?_, fun wall le fits' => ?_⟩
  · rw [fits_iff, same_day, same_clock]
    exact ⟨day, fits⟩
  · have clock_fits := ((fits_iff ..).mp fits').2
    -- on a later day every wall time is later, on this one the clocks decide
    rcases lt_or_ge (start / 86400) (wall / 86400) with later | same
    · omega
    · have clock_le : clock ≤ (wall % 86400).toNat := least ⟨by omega, clock_fits⟩
      omega

theorem firstWall?_spec (wellFormed : expression.WellFormed) (zone : Zone) (start : Int) :
    FindsLeast (expression.walls zone start) ((expression.firstWall? zone start).map Prod.fst) ∧
      ∀ found ∈ expression.firstWall? zone start, found.2 = zone.instantsAt found.1 := by
  fun_induction firstWall? expression zone start with
  | case1 start ended =>
    refine ⟨Set.eq_empty_iff_forall_notMem.mpr fun wall member => ?_, fun _ none => nomatch none⟩
    have below := lt_wallEnd_of_fits wellFormed member.2.1
    exact Int.not_lt.mpr (Int.le_trans ended member.1) below
  | case2 start going day fitting clock clocked found missing forward ih =>
    -- the wall time found is skipped by the zone, and nothing lies before it
    obtain ⟨_, _, first⟩ := first_of_firstClock? wellFormed fitting clocked
    rw [walls_eq_of_gap (Int.le_trans forward (Int.le_of_lt (Int.lt_succ found)))]
    · exact ih
    · intro wall le below member
      have same : wall = found :=
        Int.le_antisymm (Int.lt_add_one_iff.mp below) (first wall le member.2.1)
      obtain ⟨utc, shown⟩ := member.2.2
      have listed := (zone.mem_instantsAt wall utc).mpr shown
      rw [same, missing] at listed
      cases listed
  | case3 start going day fitting clock clocked found missing back =>
    exact absurd (first_of_firstClock? wellFormed fitting clocked).1 back
  | case4 start going day fitting clock clocked found shown =>
    obtain ⟨above, fits, first⟩ := first_of_firstClock? wellFormed fitting clocked
    refine ⟨⟨⟨above, fits, ?_⟩, fun wall member => first wall member.1 member.2.1⟩, ?_⟩
    · obtain ⟨utc, listed⟩ := List.exists_mem_of_ne_nil _ shown
      exact ⟨utc, (zone.mem_instantsAt found utc).mp listed⟩
    · rintro _ ⟨⟩
      rfl
  | case5 start going day fitting clockless ih =>
    -- nothing fits in what is left of the day
    rw [walls_eq_next_day]
    · exact ih
    · rintro clock le ⟨_, fits⟩
      have empty := finds_clocks wellFormed (start % 86400).toNat
      rw [clockless] at empty
      exact Set.eq_empty_iff_forall_notMem.mp empty clock ⟨le, fits⟩
  | case6 start going day unfitting ih =>
    rw [walls_eq_next_day]
    · exact ih
    · exact fun clock _ fits => unfitting fits.1

/-- A single look ahead finds the first instant that shows the least wall time from that
of the following second on. -/
theorem next?_spec (wellFormed : expression.WellFormed) (zone : Zone) (t fire : Instant) :
    expression.next? zone t = some fire ↔
      ∃ wall utc, IsLeast (expression.walls zone (zone.wallAt (t.second + 1))) wall ∧
        zone.earliestAt? wall = some utc ∧ fire = .ofSecond utc := by
  obtain ⟨finds, shown⟩ := firstWall?_spec wellFormed zone (searchStart zone t)
  cases found : expression.firstWall? zone (searchStart zone t) with
  | none =>
    rw [found] at finds
    have empty : expression.walls zone (searchStart zone t) = ∅ := finds
    have looked : expression.next? zone t = none := by
      unfold next?
      rw [found]
    rw [looked]
    constructor
    · intro same
      cases same
    · rintro ⟨wall, utc, least, _⟩
      exact absurd (empty ▸ least.1) (Set.notMem_empty wall)
  | some pair =>
    obtain ⟨wall, instants⟩ := pair
    rw [found] at finds shown
    have least : IsLeast (expression.walls zone (searchStart zone t)) wall := finds
    obtain rfl : instants = zone.instantsAt wall := shown _ rfl
    -- of the instants that show the wall time, the first is taken, whether it is past or not
    have looked : expression.next? zone t = (zone.earliestAt? wall).map .ofSecond := by
      unfold next? Zone.earliestAt?
      rw [found]
      cases zone.instantsAt wall <;> rfl
    rw [looked, Option.map_eq_some_iff]
    constructor
    · rintro ⟨utc, first, rfl⟩
      exact ⟨wall, utc, least, first, rfl⟩
    · rintro ⟨other, utc, least', first, rfl⟩
      cases least.unique least'
      exact ⟨utc, first, rfl⟩

end PowerRota.Cron.Expression
