import PowerRota.Calendar.Instant

/-! Time zones, as the relation between universal time and wall clocks.

A zone says how far its clock is ahead of universal time at each second, and
which seconds show a given wall time: none when the clock was moved over it, two
when the clock was moved back over it. The two views agree by construction. -/

set_option autoImplicit false

namespace PowerRota.Calendar

/-- What a clock can be ahead or behind: less than a day. -/
def IsOffset (seconds : Int) : Prop :=
  -86400 < seconds ∧ seconds < 86400

instance (seconds : Int) : Decidable (IsOffset seconds) :=
  inferInstanceAs (Decidable (_ ∧ _))

structure Zone where
  name : String
  offsetAt : Int → Int
  isOffset_offsetAt : ∀ utc, IsOffset (offsetAt utc)
  /-- The seconds of universal time that show a wall time, the earliest first. -/
  instantsAt : Int → List Int
  mem_instantsAt : ∀ wall utc, utc ∈ instantsAt wall ↔ utc + offsetAt utc = wall
  instantsAt_increasing : ∀ wall, (instantsAt wall).Pairwise (· < ·)

namespace Zone

/-- The wall time, in seconds since the start of 1970 on this clock. -/
def wallAt (zone : Zone) (utc : Int) : Int :=
  utc + zone.offsetAt utc

def dayAt (zone : Zone) (utc : Int) : Int :=
  zone.wallAt utc / 86400

def earliestAt? (zone : Zone) (wall : Int) : Option Int :=
  (zone.instantsAt wall).head?

def fixed (name : String) (offset : Int) (isOffset : IsOffset offset) : Zone where
  name := name
  offsetAt := fun _ => offset
  isOffset_offsetAt := fun _ => isOffset
  instantsAt := fun wall => [wall - offset]
  mem_instantsAt := by intro wall utc; simp; omega
  instantsAt_increasing := by simp

theorem wallAt_of_earliestAt? {zone : Zone} {wall utc : Int}
    (h : zone.earliestAt? wall = some utc) : zone.wallAt utc = wall :=
  (zone.mem_instantsAt wall utc).mp (List.mem_of_mem_head? h)

theorem earliestAt?_eq_none_iff {zone : Zone} {wall : Int} :
    zone.earliestAt? wall = none ↔ ∀ utc, zone.wallAt utc ≠ wall := by
  simp only [earliestAt?, List.head?_eq_none_iff, List.eq_nil_iff_forall_not_mem,
    zone.mem_instantsAt, wallAt, ne_eq]

/-- Of two seconds that show one wall time, the answer is the first. -/
theorem le_of_earliestAt? {zone : Zone} {wall utc other : Int}
    (h : zone.earliestAt? wall = some utc) (shown : zone.wallAt other = wall) : utc ≤ other := by
  have member := (zone.mem_instantsAt wall other).mpr shown
  have increasing := zone.instantsAt_increasing wall
  unfold earliestAt? at h
  cases hs : zone.instantsAt wall with
  | nil => simp [hs] at h
  | cons first rest =>
    rw [hs] at h member increasing
    obtain rfl : first = utc := by simpa using h
    rcases List.mem_cons.mp member with rfl | member
    · exact Int.le_refl _
    · exact Int.le_of_lt ((List.pairwise_cons.mp increasing).1 other member)

end Zone

end PowerRota.Calendar
