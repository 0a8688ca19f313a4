import PowerRota.Calendar.Zone

/-! Zones made from a table of clock changes.

A timetable lists the changes of the past and, where a rule is in force, the two
changes of a year. The rule is followed up to the end of `lastRuledYear`; the
offset then reached stays. -/

set_option autoImplicit false

namespace PowerRota.Calendar

inductive Week where
  | nth (n : Nat)
  | last
  deriving DecidableEq, Repr

/-- A change that comes back every year, `clock` seconds after the midnight that
the old clock shows. -/
structure YearlyChange where
  month : Nat
  week : Week
  weekday : Nat
  clock : Int
  before : Int
  after : Int
  deriving Repr

structure Timetable where
  initial : Int
  /-- Seconds of universal time, in order, with the offset from then on. -/
  changes : List (Int × Int)
  since : Int := 0
  yearly : List YearlyChange := []
  isOffset : ∀ offset ∈ initial :: (changes.map (·.2) ++ yearly.map (·.after)),
    IsOffset offset := by decide +kernel
  deriving Repr

namespace YearlyChange

def dayIn (change : YearlyChange) (year : Int) : Int :=
  let first := (Date.mk year change.month 1).toDay
  match change.week with
  | .nth n => first + ((change.weekday + 7 - weekdayOf first) % 7 + 7 * (n - 1) : Nat)
  | .last =>
      let final := first + monthLength year change.month - 1
      final - ((weekdayOf final + 7 - change.weekday) % 7 : Nat)

def inYear (change : YearlyChange) (year : Int) : Int × Int :=
  (change.dayIn year * 86400 + change.clock - change.before, change.after)

end YearlyChange

namespace Timetable

def lastRuledYear : Int := 2099

def ruledChanges (table : Timetable) : List (Int × Int) :=
  if table.yearly.isEmpty then []
  else
    (List.range (lastRuledYear - table.since + 1).toNat).flatMap fun (n : Nat) =>
      table.yearly.map fun change => change.inYear (table.since + n)

def allChanges (table : Timetable) : List (Int × Int) :=
  table.changes ++ table.ruledChanges

theorem isOffset_of_mem_allChanges {table : Timetable} {change : Int × Int}
    (member : change ∈ table.allChanges) : IsOffset change.2 := by
  refine table.isOffset change.2 (List.mem_cons_of_mem _ (List.mem_append.mpr ?_))
  rcases List.mem_append.mp member with listed | ruled
  · exact Or.inl (List.mem_map_of_mem listed)
  · unfold ruledChanges at ruled
    split at ruled
    · cases ruled
    · obtain ⟨n, _, inYear⟩ := List.mem_flatMap.mp ruled
      obtain ⟨yearly, known, rfl⟩ := List.mem_map.mp inYear
      exact Or.inr (List.mem_map_of_mem known)

end Timetable

/-- Time cut into stretches of one offset each, by halves. -/
inductive Stretches where
  | lasting (offset : Int)
  | change (before : Stretches) (start : Int) (after : Stretches)

namespace Stretches

def ofChanges (offset : Int) (changes : List (Int × Int)) : Stretches :=
  match split : changes.drop (changes.length / 2) with
  | [] => .lasting offset
  | (start, next) :: rest =>
      .change (ofChanges offset (changes.take (changes.length / 2))) start (ofChanges next rest)
termination_by changes.length
decreasing_by
  all_goals
    have size := congrArg List.length split
    simp only [List.length_drop, List.length_cons] at size
  · rw [List.length_take]
    omega
  · omega

def offsetAt : Stretches → Int → Int
  | .lasting offset, _ => offset
  | .change before start after, utc =>
      if utc < start then before.offsetAt utc else after.offsetAt utc

def insertOffset (offset : Int) : List Int → List Int
  | [] => [offset]
  | other :: rest =>
      if offset = other then other :: rest
      else if other < offset then offset :: other :: rest
      else other :: insertOffset offset rest

theorem mem_insertOffset (offset x : Int) (offsets : List Int) :
    x ∈ insertOffset offset offsets ↔ x = offset ∨ x ∈ offsets := by
  induction offsets with
  | nil => simp [insertOffset]
  | cons other rest ih =>
    simp only [insertOffset]
    split
    next same => simp [same]
    next =>
      split
      next => simp
      next => simp only [List.mem_cons, ih]; exact or_left_comm

theorem insertOffset_falling (offset : Int) (offsets : List Int)
    (falling : offsets.Pairwise (· > ·)) : (insertOffset offset offsets).Pairwise (· > ·) := by
  induction offsets with
  | nil => simp [insertOffset]
  | cons other rest ih =>
    obtain ⟨first, others⟩ := List.pairwise_cons.mp falling
    simp only [insertOffset]
    split
    next => exact falling
    next different =>
      split
      next above =>
        refine List.pairwise_cons.mpr ⟨fun x member => ?_, falling⟩
        rcases List.mem_cons.mp member with rfl | member
        · exact above
        · exact Int.lt_trans (first x member) above
      next =>
        refine List.pairwise_cons.mpr ⟨fun x member => ?_, ih others⟩
        rcases (mem_insertOffset _ _ _).mp member with rfl | member
        · omega
        · exact first x member

def offsets : Stretches → List Int
  | .lasting offset => [offset]
  | .change before _ after => before.offsets.foldr insertOffset after.offsets

theorem mem_foldr_insertOffset (x : Int) (first second : List Int) :
    x ∈ first.foldr insertOffset second ↔ x ∈ first ∨ x ∈ second := by
  induction first with
  | nil => simp
  | cons offset rest ih => simp only [List.foldr_cons, mem_insertOffset, ih, List.mem_cons, or_assoc]

theorem offsets_falling (stretches : Stretches) : stretches.offsets.Pairwise (· > ·) := by
  induction stretches with
  | lasting offset => simp [offsets]
  | change before start after _ ihAfter =>
    simp only [offsets]
    induction before.offsets with
    | nil => exact ihAfter
    | cons offset rest ih => exact insertOffset_falling _ _ ih

theorem offsetAt_mem_offsets (stretches : Stretches) (utc : Int) :
    stretches.offsetAt utc ∈ stretches.offsets := by
  induction stretches with
  | lasting offset => simp [offsetAt, offsets]
  | change before start after ihBefore ihAfter =>
    simp only [offsetAt, offsets, mem_foldr_insertOffset]
    split
    next => exact .inl ihBefore
    next => exact .inr ihAfter

/-- The seconds that show a wall time: one candidate for each offset, kept if the
offset is in force then. -/
def instantsAt (stretches : Stretches) (offsets : List Int) (wall : Int) : List Int :=
  (offsets.map fun offset => wall - offset).filter fun utc =>
    utc + stretches.offsetAt utc = wall

theorem mem_instantsAt (stretches : Stretches) (wall utc : Int) :
    utc ∈ stretches.instantsAt stretches.offsets wall ↔ utc + stretches.offsetAt utc = wall := by
  simp only [instantsAt, List.mem_filter, List.mem_map, decide_eq_true_eq, and_iff_right_iff_imp]
  intro shown
  exact ⟨stretches.offsetAt utc, stretches.offsetAt_mem_offsets utc, by omega⟩

theorem instantsAt_increasing (stretches : Stretches) (wall : Int) :
    (stretches.instantsAt stretches.offsets wall).Pairwise (· < ·) := by
  refine List.Pairwise.filter _ (List.pairwise_map.mpr ?_)
  exact stretches.offsets_falling.imp fun above => by omega

theorem mem_offsets_ofChanges {offset found : Int} {changes : List (Int × Int)}
    (member : found ∈ (ofChanges offset changes).offsets) :
    found = offset ∨ found ∈ changes.map (·.2) := by
  induction offset, changes using ofChanges.induct with
  | case1 offset changes empty =>
    rw [ofChanges] at member
    split at member
    next => exact Or.inl (List.mem_singleton.mp member)
    next listed => cases empty.symm.trans listed
  | case2 offset changes start later rest listed ihBefore ihAfter =>
    rw [ofChanges] at member
    split at member
    next empty => cases empty.symm.trans listed
    next start' later' rest' listed' =>
      cases listed.symm.trans listed'
      have dropped {change : Int × Int} (known : change ∈ (start, later) :: rest) :
          change ∈ changes := List.mem_of_mem_drop (listed ▸ known)
      rcases (mem_foldr_insertOffset _ _ _).mp member with before | after
      · refine (ihBefore before).imp_right fun known => ?_
        rw [List.map_take] at known
        exact List.mem_of_mem_take known
      · rcases ihAfter after with rfl | known
        · exact Or.inr (List.mem_map_of_mem (dropped (List.mem_cons_self ..)))
        · obtain ⟨change, listed_later, rfl⟩ := List.mem_map.mp known
          exact Or.inr (List.mem_map_of_mem (dropped (List.mem_cons_of_mem _ listed_later)))

end Stretches

theorem Timetable.isOffset_offsetAt (table : Timetable) (utc : Int) :
    IsOffset ((Stretches.ofChanges table.initial table.allChanges).offsetAt utc) := by
  rcases Stretches.mem_offsets_ofChanges (Stretches.offsetAt_mem_offsets _ utc) with same | listed
  · rw [same]
    exact table.isOffset table.initial (List.mem_cons_self ..)
  · obtain ⟨change, member, same⟩ := List.mem_map.mp listed
    exact same ▸ isOffset_of_mem_allChanges member

def Timetable.zone (name : String) (table : Timetable) : Zone :=
  let stretches := Stretches.ofChanges table.initial table.allChanges
  let offsets := stretches.offsets
  { name := name
    offsetAt := stretches.offsetAt
    isOffset_offsetAt := table.isOffset_offsetAt
    instantsAt := stretches.instantsAt offsets
    mem_instantsAt := stretches.mem_instantsAt
    instantsAt_increasing := stretches.instantsAt_increasing }

end PowerRota.Calendar
