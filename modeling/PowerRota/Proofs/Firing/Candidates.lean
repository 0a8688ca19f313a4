import PowerRota.Proofs.Calendar.Months
import PowerRota.Proofs.Firing.LocalTime

/-! The few dates that a calendar rule looks at hold the nearest fire.

One argument serves both directions. `later` orders the dates the way the search goes,
`after` the instants; the candidates start at the date of the instant and leave out no
date of the rule. -/

set_option autoImplicit false

namespace PowerRota

open PowerRota.Calendar

theorem first_of_find? {Entry Value : Type} {later : Entry → Entry → Prop} {entries : List Entry}
    {value? : Entry → Option Value} {passes : Value → Bool} {value : Value}
    (ordered : entries.Pairwise later)
    (found : (entries.filterMap value?).find? passes = some value) :
    ∃ entry ∈ entries, value? entry = some value ∧ passes value = true ∧
      ∀ other ∈ entries, ∀ value', value? other = some value' → passes value' = true →
        other = entry ∨ later entry other := by
  induction entries with
  | nil => cases found
  | cons head rest ih =>
    obtain ⟨first, ordered⟩ := List.pairwise_cons.mp ordered
    -- the head is passed over if it has no value, or one that fails the test
    have passed_over (skips : ∀ value', value? head = some value' → passes value' = false)
        (found : (rest.filterMap value?).find? passes = some value) :
        ∃ entry ∈ head :: rest, value? entry = some value ∧ passes value = true ∧
          ∀ other ∈ head :: rest, ∀ value', value? other = some value' → passes value' = true →
            other = entry ∨ later entry other := by
      obtain ⟨entry, member, same, passing, least⟩ := ih ordered found
      refine ⟨entry, List.mem_cons_of_mem _ member, same, passing, fun other listed => ?_⟩
      rcases List.mem_cons.mp listed with rfl | listed
      · intro value' same' passing'
        rw [skips value' same'] at passing'
        cases passing'
      · exact least other listed
    cases has : value? head with
    | none =>
      rw [List.filterMap_cons_none has] at found
      exact passed_over (fun value' same => by rw [has] at same; cases same) found
    | some value' =>
      rw [List.filterMap_cons_some has, List.find?_cons] at found
      split at found
      next passing =>
        cases found
        refine ⟨head, List.mem_cons_self .., has, passing, fun other listed _ _ _ => ?_⟩
        rcases List.mem_cons.mp listed with rfl | listed
        · exact Or.inl rfl
        · exact Or.inr (first other listed)
      next failing =>
        refine passed_over (fun other same => ?_) found
        cases has.symm.trans same
        exact failing

/-- Dates that a search from `today` looks at, of those on a calendar. -/
structure Candidates (later : Int → Int → Prop) (onCalendar : Int → Prop) (today : Int)
    (days : List Int) : Prop where
  ordered : days.Pairwise later
  listed : ∀ day ∈ days, onCalendar day
  complete : ∀ day, onCalendar day → ¬ later day today →
    day ∈ days ∨ ∀ other ∈ days, later other day
  reaches : ∃ day ∈ days, later today day

/-- How fires lie around an instant: they follow their dates. -/
structure Timed (later : Int → Int → Prop) (after : Instant → Instant → Prop)
    (fireOn? : Int → Option Instant) (today : Int) (t : Instant) : Prop where
  total : ∀ day, ∃ fire, fireOn? day = some fire
  follows : ∀ {day other : Int} {fire fire' : Instant}, later day other →
    fireOn? day = some fire → fireOn? other = some fire' → after fire fire'
  beyond : ∀ {day : Int} {fire : Instant}, later today day → fireOn? day = some fire → after t fire
  behind : ∀ {day : Int} {fire : Instant}, later day today → fireOn? day = some fire →
    ¬ after t fire

/-- The search finds a fire of the calendar, and none is nearer. -/
theorem Candidates.nearest {later : Int → Int → Prop} {after : Instant → Instant → Prop}
    {onCalendar : Int → Prop} {fireOn? : Int → Option Instant} {today : Int} {t : Instant}
    {days : List Int} {passes : Instant → Bool}
    (candidates : Candidates later onCalendar today days)
    (timed : Timed later after fireOn? today t)
    (passes_iff : ∀ fire, passes fire = true ↔ after t fire) :
    ∃ fire, (days.filterMap fireOn?).find? passes = some fire ∧
      (∃ day, onCalendar day ∧ fireOn? day = some fire) ∧ after t fire ∧
      ∀ day fire', onCalendar day → fireOn? day = some fire' → after t fire' →
        fire' = fire ∨ after fire fire' := by
  have exists_ : ∃ fire, (days.filterMap fireOn?).find? passes = some fire := by
    obtain ⟨day, member, beyond⟩ := candidates.reaches
    obtain ⟨fire, on⟩ := timed.total day
    refine Option.isSome_iff_exists.mp (List.find?_isSome.mpr ⟨fire, ?_, ?_⟩)
    · exact List.mem_filterMap.mpr ⟨day, member, on⟩
    · exact (passes_iff fire).mpr (timed.beyond beyond on)
  obtain ⟨fire, found⟩ := exists_
  obtain ⟨day, member, on, passing, first⟩ := first_of_find? candidates.ordered found
  refine ⟨fire, found, ⟨day, candidates.listed day member, on⟩, (passes_iff fire).mp passing, ?_⟩
  intro other fire' calendar on' passing'
  have not_behind : ¬ later other today := fun behind => timed.behind behind on' passing'
  rcases candidates.complete other calendar not_behind with listed | beyond
  · rcases first other listed fire' on' ((passes_iff fire').mpr passing') with rfl | follows
    · exact Or.inl (Option.some.inj (on'.symm.trans on))
    · exact Or.inr (timed.follows follows on on')
  · exact Or.inr (timed.follows (beyond day member) on on')

namespace FiringRule

theorem timed_ahead {zone : Zone} (orderly : zone.Orderly) (time : TimeOfDay) (t : Instant) :
    Timed (· < ·) (· < ·) (atLocal? zone · time) (zone.dayAt t.second) t where
  total day := atLocal?_isSome orderly day time
  follows lt on on' := by
    apply lt_of_dayAt_lt orderly
    rw [dayAt_atLocal? orderly on, dayAt_atLocal? orderly on']
    exact lt
  beyond lt on := by
    apply lt_of_dayAt_lt orderly
    rw [dayAt_atLocal? orderly on]
    exact lt
  behind lt on after := by
    have le := dayAt_le_of_lt orderly after
    rw [dayAt_atLocal? orderly on] at le
    exact Int.not_le.mpr lt le

theorem timed_back {zone : Zone} (orderly : zone.Orderly) (time : TimeOfDay) (t : Instant) :
    Timed (· > ·) (· > ·) (atLocal? zone · time) (zone.dayAt t.second) t where
  total day := atLocal?_isSome orderly day time
  follows gt on on' := (timed_ahead orderly time t).follows gt on' on
  beyond gt on := by
    apply lt_of_dayAt_lt orderly
    rw [dayAt_atLocal? orderly on]
    exact gt
  behind gt on before := by
    have le := dayAt_le_of_lt orderly before
    rw [dayAt_atLocal? orderly on] at le
    exact Int.not_le.mpr gt le

end FiringRule

end PowerRota
