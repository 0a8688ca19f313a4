import Mathlib.Order.Bounds.Defs
import Mathlib.Order.Monotone.Basic
import PowerRota.Firing.Rule

/-! Instants and fires between them; wall times on dates, in zones whose local date runs
forward. -/

set_option autoImplicit false

namespace PowerRota

open PowerRota.Calendar

namespace Calendar

/-- What is assumed of a zone: its local date never goes back, and a wall time that is
skipped is shown one hour later, on the same date. -/
structure Zone.Orderly (zone : Zone) : Prop where
  dayAt_mono : ∀ {earlier later : Int}, earlier ≤ later → zone.dayAt earlier ≤ zone.dayAt later
  skipped : ∀ wall, (∀ utc, zone.wallAt utc ≠ wall) →
    (∃ utc, zone.wallAt utc = wall + 3600) ∧ (wall + 3600) / 86400 = wall / 86400

/-- A clock that is never put back, and so shows no wall time twice. -/
def Zone.Forward (zone : Zone) : Prop :=
  ∀ earlier later, earlier < later → zone.wallAt earlier < zone.wallAt later

theorem Zone.Forward.wallAt_le_iff {zone : Zone} (forward : zone.Forward) {utc other : Int} :
    zone.wallAt utc ≤ zone.wallAt other ↔ utc ≤ other :=
  StrictMono.le_iff_le (f := zone.wallAt) forward

/-- A clock that is ahead by the same at all times. -/
def Zone.Unchanging (zone : Zone) : Prop :=
  ∀ utc other, zone.offsetAt utc = zone.offsetAt other

namespace Zone.Unchanging

variable {zone : Zone}

theorem wallAt_sub (unchanging : zone.Unchanging) (utc other : Int) :
    zone.wallAt utc - zone.wallAt other = utc - other := by
  rw [wallAt, wallAt, unchanging utc other]
  omega

theorem forward (unchanging : zone.Unchanging) : zone.Forward := by
  intro utc other before
  have same := unchanging.wallAt_sub utc other
  omega

theorem orderly (unchanging : zone.Unchanging) : zone.Orderly where
  dayAt_mono le := Int.ediv_le_ediv (by decide) (unchanging.forward.wallAt_le_iff.mpr le)
  skipped wall missing := by
    have shown : zone.wallAt (wall - zone.offsetAt 0) = wall := by
      rw [Zone.wallAt, unchanging (wall - zone.offsetAt 0) 0, Int.sub_add_cancel]
    exact absurd shown (missing _)

end Zone.Unchanging

theorem Zone.earliestAt?_isSome {zone : Zone} {wall utc : Int} (shown : zone.wallAt utc = wall) :
    ∃ first, zone.earliestAt? wall = some first := by
  cases found : zone.earliestAt? wall with
  | some first => exact ⟨first, rfl⟩
  | none => exact absurd shown (Zone.earliestAt?_eq_none_iff.mp found utc)

namespace Instant

@[simp] theorem second_ofSecond (second : Int) : (ofSecond second).second = second :=
  Int.mul_ediv_cancel second (by decide)

theorem second_le_of_le {earlier later : Instant} (le : earlier ≤ later) :
    earlier.second ≤ later.second :=
  Int.ediv_le_ediv (by decide) le

theorem lt_of_second_lt {earlier later : Instant} (lt : earlier.second < later.second) :
    earlier < later := by
  apply Int.not_le.mp
  intro le
  exact Int.not_le.mpr lt (second_le_of_le le)

theorem lt_ofSecond_iff {t : Instant} {second : Int} : t < ofSecond second ↔ t.second < second := by
  rw [lt_def, ofSecond, Instant.second, Int.ediv_lt_iff_lt_mul (by decide)]

def between (fires : Instant → Prop) (t now : Instant) : Set Instant :=
  {fire | fires fire ∧ t < fire ∧ fire < now}

variable {fires : Instant → Prop} {t now fire : Instant}

theorem between_eq_insert (least : IsLeast {fire | fires fire ∧ t < fire} fire)
    (before : fire < now) : between fires t now = insert fire (between fires fire now) := by
  ext other
  constructor
  · rintro ⟨fires', after, sooner⟩
    rcases Int.lt_or_eq_of_le (least.2 ⟨fires', after⟩) with later | same
    · exact Or.inr ⟨fires', later, sooner⟩
    · exact Or.inl (Instant.ext same.symm)
  · rintro (rfl | ⟨fires', after, sooner⟩)
    · exact ⟨least.1.1, least.1.2, before⟩
    · exact ⟨fires', Int.lt_trans least.1.2 after, sooner⟩

theorem between_eq_empty (least : IsLeast {fire | fires fire ∧ t < fire} fire)
    (reached : now ≤ fire) : between fires t now = ∅ := by
  ext other
  refine iff_of_false ?_ id
  rintro ⟨fires', after, sooner⟩
  exact Int.not_le.mpr sooner (Int.le_trans reached (least.2 ⟨fires', after⟩))

end Instant

end Calendar

namespace FiringRule

variable {zone : Zone} {day : Int} {time : TimeOfDay} {fire : Instant}

theorem dayAt_atLocal? (orderly : zone.Orderly) (found : atLocal? zone day time = some fire) :
    zone.dayAt fire.second = day := by
  have clock := time.toSeconds_lt
  have same_day : (day * 86400 + time.toSeconds) / 86400 = day := by omega
  obtain ⟨utc, earliest, rfl⟩ := Option.map_eq_some_iff.mp found
  rw [Instant.second_ofSecond]
  cases exact_ : zone.earliestAt? (day * 86400 + time.toSeconds) with
  | some first =>
    rw [exact_] at earliest
    cases earliest
    rw [Zone.dayAt, Zone.wallAt_of_earliestAt? exact_, same_day]
  | none =>
    -- the time is skipped, and the hour later that is taken instead is on the same date
    rw [exact_] at earliest
    have later : zone.earliestAt? (day * 86400 + time.toSeconds + 3600) = some utc := earliest
    have skipped := orderly.skipped _ (Zone.earliestAt?_eq_none_iff.mp exact_)
    rw [Zone.dayAt, Zone.wallAt_of_earliestAt? later, skipped.2, same_day]

theorem atLocal?_isSome (orderly : zone.Orderly) (day : Int) (time : TimeOfDay) :
    ∃ fire, atLocal? zone day time = some fire := by
  unfold atLocal?
  dsimp only
  cases exact_ : zone.earliestAt? (day * 86400 + time.toSeconds) with
  | some first => exact ⟨.ofSecond first, rfl⟩
  | none =>
    obtain ⟨⟨utc, shown⟩, _⟩ := orderly.skipped _ (Zone.earliestAt?_eq_none_iff.mp exact_)
    obtain ⟨first, later⟩ := Zone.earliestAt?_isSome shown
    rw [later]
    exact ⟨.ofSecond first, rfl⟩

theorem lt_of_dayAt_lt (orderly : zone.Orderly) {earlier later : Instant}
    (lt : zone.dayAt earlier.second < zone.dayAt later.second) : earlier < later := by
  refine Instant.lt_of_second_lt (Int.not_le.mp fun le => ?_)
  exact Int.not_le.mpr lt (orderly.dayAt_mono le)

theorem dayAt_le_of_lt (orderly : zone.Orderly) {earlier later : Instant} (lt : earlier < later) :
    zone.dayAt earlier.second ≤ zone.dayAt later.second :=
  orderly.dayAt_mono (Instant.second_le_of_le (Int.le_of_lt lt))

end FiringRule

end PowerRota
