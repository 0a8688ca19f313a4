import Mathlib.Data.Set.Card
import PowerRota.Proofs.Cron.Search
import PowerRota.Proofs.Firing.LocalTime

/-! Walks from fire to fire, where the clock is never put back.

A walk of so many steps gets to an instant if it meets fewer fires than that on the
way and there is a fire left to step on. It then knows the last fire it has met. -/

set_option autoImplicit false

namespace PowerRota.Cron.Expression

open PowerRota.Calendar

variable {expression : Expression} {zone : Zone} {t now fire : Instant}

/-- An expression fires at the full seconds whose wall time fits. -/
def Fires (expression : Expression) (zone : Zone) (fire : Instant) : Prop :=
  ∃ utc, fire = .ofSecond utc ∧ expression.fits (zone.wallAt utc) = true

def firesBetween (expression : Expression) (zone : Zone) (t now : Instant) : Set Instant :=
  Instant.between (expression.Fires zone) t now

theorem lt_ofSecond_iff_wallAt (forward : zone.Forward) {utc : Int} :
    t < .ofSecond utc ↔ searchStart zone t ≤ zone.wallAt utc := by
  rw [Instant.lt_ofSecond_iff, searchStart, forward.wallAt_le_iff]
  exact Int.add_one_le_iff.symm

theorem finds_next (wellFormed : expression.WellFormed) (forward : zone.Forward)
    (t : Instant) :
    FindsLeast {fire | expression.Fires zone fire ∧ t < fire} (expression.next? zone t) := by
  have wall_of_fire {utc : Int} (fits : expression.fits (zone.wallAt utc) = true)
      (later : t < .ofSecond utc) : zone.wallAt utc ∈ expression.walls zone (searchStart zone t) :=
    ⟨(lt_ofSecond_iff_wallAt forward).mp later, fits, utc, rfl⟩
  cases looked : expression.next? zone t with
  | some first =>
    obtain ⟨wall, utc, least, earliest, rfl⟩ := (next?_spec wellFormed zone t first).mp looked
    obtain rfl : zone.wallAt utc = wall := Zone.wallAt_of_earliestAt? earliest
    refine ⟨⟨⟨utc, rfl, least.1.2.1⟩, (lt_ofSecond_iff_wallAt forward).mpr least.1.1⟩, ?_⟩
    rintro _ ⟨⟨other, rfl, fits⟩, later⟩
    have below := forward.wallAt_le_iff.mp (least.2 (wall_of_fire fits later))
    exact Int.mul_le_mul_of_nonneg_right below (by decide)
  | none =>
    apply Set.eq_empty_iff_forall_notMem.mpr
    rintro _ ⟨⟨utc, rfl, fits⟩, later⟩
    -- a fire is a wall time that the search cannot miss
    obtain ⟨finds, _⟩ := firstWall?_spec wellFormed zone (searchStart zone t)
    cases found : expression.firstWall? zone (searchStart zone t) with
    | none =>
      rw [found] at finds
      exact Set.eq_empty_iff_forall_notMem.mp finds _ (wall_of_fire fits later)
    | some pair =>
      rw [found] at finds
      obtain ⟨_, _, other, shown⟩ := finds.1
      obtain ⟨first, earliest⟩ := Zone.earliestAt?_isSome shown
      have fired := (next?_spec wellFormed zone t _).mpr ⟨_, first, finds, earliest, rfl⟩
      rw [looked] at fired
      cases fired

/-- No wall time is shown twice, so a walk goes from one look ahead to the next. -/
theorem walk_next? (wellFormed : expression.WellFormed) (forward : zone.Forward)
    (t : Instant) :
    Walk.next? expression zone ⟨t, none⟩ =
      (expression.next? zone t).map fun fire => (fire, ⟨fire, none⟩) := by
  obtain ⟨_, shown⟩ := firstWall?_spec wellFormed zone (searchStart zone t)
  unfold Walk.next? next?
  cases found : expression.firstWall? zone (searchStart zone t) with
  | none => rfl
  | some pair =>
    obtain ⟨wall, instants⟩ := pair
    obtain rfl : instants = zone.instantsAt wall := shown _ found
    have shows {utc : Int} (member : utc ∈ zone.instantsAt wall) : zone.wallAt utc = wall :=
      (zone.mem_instantsAt wall utc).mp member
    cases listed : zone.instantsAt wall with
    | nil => rfl
    | cons first rest =>
      cases rest with
      | nil => rfl
      | cons second rest =>
        have ordered := zone.instantsAt_increasing wall
        rw [listed] at ordered shows
        have before : first < second := (List.pairwise_cons.mp ordered).1 second (by simp)
        have same := (shows (by simp : first ∈ _)).trans (shows (by simp : second ∈ _)).symm
        exact absurd same (Int.ne_of_lt (forward _ _ before))

def IsLastOr (instants : Set Instant) (previous answer : Option Instant) : Prop :=
  (instants = ∅ ∧ answer = previous) ∨ ∃ fire, answer = some fire ∧ IsGreatest instants fire

theorem isLastOr_insert {previous answer : Option Instant}
    (least : IsLeast {fire | expression.Fires zone fire ∧ t < fire} fire) (before : fire < now) :
    IsLastOr (expression.firesBetween zone t now) previous answer ↔
      IsLastOr (expression.firesBetween zone fire now) (some fire) answer := by
  have split : expression.firesBetween zone t now =
      insert fire (expression.firesBetween zone fire now) := Instant.between_eq_insert least before
  constructor
  · rintro (⟨empty, _⟩ | ⟨last, rfl, greatest⟩)
    · exact absurd (split ▸ empty) (Set.insert_nonempty _ _).ne_empty
    · rw [split] at greatest
      rcases greatest.1 with rfl | member
      · -- nothing can lie behind a first fire that is also the last
        refine Or.inl ⟨Set.eq_empty_iff_forall_notMem.mpr fun other member => ?_, rfl⟩
        exact Int.not_le.mpr member.2.1 (greatest.2 (Or.inr member))
      · exact Or.inr ⟨last, rfl, member, fun other listed => greatest.2 (Or.inr listed)⟩
  · rintro (⟨empty, rfl⟩ | ⟨last, rfl, greatest⟩)
    · rw [split, empty]
      refine Or.inr ⟨fire, rfl, Or.inl rfl, ?_⟩
      rintro other (rfl | none)
      · exact Int.le_refl _
      · cases none
    · rw [split]
      refine Or.inr ⟨last, rfl, Or.inr greatest.1, ?_⟩
      rintro other (rfl | member)
      · exact Int.le_of_lt greatest.1.2.1
      · exact greatest.2 member

theorem encard_firesBetween
    (least : IsLeast {fire | expression.Fires zone fire ∧ t < fire} fire) (before : fire < now) :
    (expression.firesBetween zone t now).encard =
      (expression.firesBetween zone fire now).encard + 1 := by
  unfold firesBetween
  rw [Instant.between_eq_insert least before, Set.encard_insert_of_notMem]
  exact fun member => Int.lt_irrefl _ member.2.1

/-- A walk gets to `now` if it has more steps than fires on the way, and a fire beyond. -/
theorem walkTo_eq_some_iff (wellFormed : expression.WellFormed)
    (forward : zone.Forward) {steps : Nat} {previous answer : Option Instant} :
    expression.walkTo zone now steps ⟨t, none⟩ previous = some answer ↔
      (expression.firesBetween zone t now).encard < steps ∧
        (∃ later, expression.Fires zone later ∧ t < later ∧ now ≤ later) ∧
        IsLastOr (expression.firesBetween zone t now) previous answer := by
  induction steps generalizing t previous with
  | zero => simp [walkTo]
  | succ steps ih =>
    have finds := finds_next wellFormed forward t
    rw [walkTo, walk_next? wellFormed forward]
    cases looked : expression.next? zone t with
    | none =>
      rw [looked] at finds
      have exhausted : {fire | expression.Fires zone fire ∧ t < fire} = ∅ := finds
      refine iff_of_false (fun none => nomatch none) ?_
      rintro ⟨_, ⟨later, fires, after, _⟩, _⟩
      exact Set.eq_empty_iff_forall_notMem.mp exhausted later ⟨fires, after⟩
    | some fire =>
      rw [looked] at finds
      have least : IsLeast {fire | expression.Fires zone fire ∧ t < fire} fire := finds
      simp only [Option.map_some]
      split
      next reached =>
        -- the walk is there: no fire lies between the start and `now`
        have empty : expression.firesBetween zone t now = ∅ :=
          Instant.between_eq_empty least reached
        rw [empty, Set.encard_empty]
        constructor
        · rintro ⟨⟩
          exact ⟨by simp, ⟨fire, least.1.1, least.1.2, reached⟩, Or.inl ⟨rfl, rfl⟩⟩
        · rintro ⟨_, _, ⟨_, rfl⟩ | ⟨_, _, none, _⟩⟩
          · rfl
          · cases none
      next going =>
        have before : fire < now := Int.not_le.mp going
        have beyond : (∃ later, expression.Fires zone later ∧ fire < later ∧ now ≤ later) ↔
            ∃ later, expression.Fires zone later ∧ t < later ∧ now ≤ later := by
          constructor
          · rintro ⟨later, fires, after, reached⟩
            exact ⟨later, fires, Int.lt_trans least.1.2 after, reached⟩
          · rintro ⟨later, fires, _, reached⟩
            exact ⟨later, fires, Int.lt_of_lt_of_le before reached, reached⟩
        rw [ih, beyond, isLastOr_insert least before, encard_firesBetween least before,
          Nat.cast_succ, ENat.add_lt_add_iff_right ENat.one_ne_top]

end PowerRota.Cron.Expression
